import DaonUser.ObjectQueue.Store

/-!
# Object queue: what each transaction does

For every transaction, what it writes when it commits, and for `claim`, `fail` and `reprocess` the facts
about the rows before it under which it commits. `effect_next` collects the transactions into one inductive,
`Effect`; the invariants are proved from it and no later proof unfolds a transaction.
-/

namespace DaonUser.ObjectQueue

open Lib

variable {sha256 : String → String} {t : Tables}

/-! ## Statements -/

theorem post_insert {α : Type} {admits : Tables → Prop} [DecidablePred admits]
    {write : Tables → Tables} {f : PUnit → Statement α}
    {Q : Except ObjectQueueError α → Tables → Prop}
    (herror : ∀ e, ¬admits t → Q (.error e) t) (hok : admits t → Call.Post (f ⟨⟩) (write t) Q) :
    Call.Post (insert admits write >>= f) t Q := by
  rw [insert, Call.bind_assoc]
  apply Call.post_get
  rw [Call.bind_assoc]
  exact Call.post_ensure (herror _) fun h => Call.post_modify (hok h)

theorem post_raiseAny {α : Type} {failure : Option ObjectQueueError} {f : PUnit → Statement α}
    {Q : Except ObjectQueueError α → Tables → Prop}
    (herror : ∀ e, failure ≠ none → Q (.error e) t)
    (hok : failure = none → Call.Post (f ⟨⟩) t Q) :
    Call.Post (raiseAny failure >>= f) t Q := by
  cases failure with
  | none => exact hok rfl
  | some e => exact herror e (by simp)

theorem post_selectJob {α : Type} {jobId : String} {f : JobRow → Statement α}
    {Q : Except ObjectQueueError α → Tables → Prop}
    (herror : ∀ e, t.jobs.get? jobId = none → Q (.error e) t)
    (hok : ∀ row, t.jobs.get? jobId = some row → Call.Post (f row) t Q) :
    Call.Post (selectJob jobId >>= f) t Q := by
  refine Call.post_query (fun e h => ?_) fun row h => ?_
  · cases hrow : t.jobs.get? jobId with
    | none => exact herror e hrow
    | some row => simp [hrow] at h
  · cases hrow : t.jobs.get? jobId with
    | none => simp [hrow] at h
    | some found =>
      simp only [hrow, Except.ok.injEq] at h
      subst h
      exact hok found hrow

theorem post_updateUnless {α : Type} {skipped : Bool} {objectId : String}
    {g : ObjectRow → ObjectRow} {f : PUnit → Statement α}
    {Q : Except ObjectQueueError α → Tables → Prop}
    (h : Call.Post (f ⟨⟩)
      { t with objects := if skipped then t.objects else t.objects.update objectId g } Q) :
    Call.Post (if skipped then f ⟨⟩ else updateObject objectId g >>= f) t Q := by
  cases skipped <;> exact h

structure Leaves (t : Tables) (objects : Dict String ObjectRow) (jobs : Dict String JobRow)
    (attempts : List AttemptRow) : Prop where
  objects : t.objects = objects
  jobs : t.jobs = jobs
  attempts : t.attempts = attempts

/-! ## `claim` -/

/-- The claim of `row`, and nothing in its way. -/
structure ClaimAdmitted (env : Env) (workerId : String) (now lease : Int) (t : Tables)
    (row : JobRow) : Prop where
  worker : isSafeId workerId = true
  lease : 0 < lease ∧ lease ≤ 3600000000
  chosen : candidate env.locked now t = some row
  payload : isOpaqueId row.objectId = true
  commits : env.failure = none

theorem ClaimAdmitted.unique {env : Env} {workerId : String} {now lease : Int} {row row' : JobRow}
    (h : ClaimAdmitted env workerId now lease t row)
    (h' : ClaimAdmitted env workerId now lease t row') : row = row' :=
  Option.some.inj (h.chosen.symm.trans h'.chosen)

theorem candidate_mem {locked : String → Bool} {now : Int} {row : JobRow}
    (h : candidate locked now t = some row) : row ∈ t.jobs.values ∧ row.Claimable now := by
  have hmem := List.argmin_mem h
  simp only [List.mem_filter, decide_eq_true_eq] at hmem
  exact ⟨hmem.1, hmem.2.1⟩

theorem claim_spec (env : Env) (workerId : String) (now lease : Int) (t : Tables) :
    Call.Post (claim env workerId now lease) t fun o t' =>
      (∃ row, ClaimAdmitted env workerId now lease t row ∧
        o = .ok (some (jobFromRow (row.lease workerId (now + lease)))) ∧
        Leaves t' t.objects (t.jobs.set row.jobId (row.lease workerId (now + lease)))
          t.attempts) ∨
      (t' = t ∧ (o = .ok none ∨ ∃ e, o = .error e) ∧
        ¬∃ row, ClaimAdmitted env workerId now lease t row) := by
  refine Call.post_ensure (fun h => ?_) fun worker => ?_
  · exact Or.inr ⟨rfl, Or.inr ⟨_, rfl⟩, fun ⟨_, hrow⟩ => h hrow.worker⟩
  refine Call.post_ensure (fun h => ?_) fun hlease => ?_
  · exact Or.inr ⟨rfl, Or.inr ⟨_, rfl⟩, fun ⟨_, hrow⟩ => h hrow.lease⟩
  refine Call.post_atomically (Call.post_get ?_)
  cases hchosen : candidate env.locked now t with
  | none =>
    have hnot : ¬∃ row, ClaimAdmitted env workerId now lease t row := by
      rintro ⟨row, hrow⟩
      simp [hrow.chosen] at hchosen
    refine post_raiseAny (fun e _ => ?_) fun _ => ?_
    · exact Or.inr ⟨rfl, Or.inr ⟨e, rfl⟩, hnot⟩
    · exact Or.inr ⟨rfl, Or.inl rfl, hnot⟩
  | some row =>
    have hsame : ∀ row', ClaimAdmitted env workerId now lease t row' → row' = row := by
      intro row' hrow'
      exact Option.some.inj (hrow'.chosen.symm.trans hchosen)
    refine Call.post_modify (Call.post_ensure (fun h => ?_) fun payload => ?_)
    · refine Or.inr ⟨rfl, Or.inr ⟨_, rfl⟩, fun ⟨row', hrow'⟩ => h ?_⟩
      have hpayload := hrow'.payload
      rwa [hsame row' hrow'] at hpayload
    refine Call.post_modify (post_raiseAny (fun e h => ?_) fun commits => ?_)
    · exact Or.inr ⟨rfl, Or.inr ⟨e, rfl⟩, fun ⟨_, hrow⟩ => h hrow.commits⟩
    · exact Or.inl ⟨row, ⟨worker, hlease, hchosen, payload, commits⟩, rfl, rfl, rfl, rfl⟩

/-- The attempt that ends when a lease is given back. -/
def AttemptRow.Ends (a : AttemptRow) (job : ObjectJob) : Prop :=
  a.jobId = job.jobId ∧ a.attemptNumber = job.attempt

theorem complete_spec (env : Env) (context : CloudAccessContext) (job : ObjectJob)
    (workerId : String) (stored : StoredObject) (now : Int) (t : Tables) :
    Call.Post (complete env context job workerId stored now) t fun o t' =>
      (∃ row a, t.jobs.get? job.jobId = some row ∧ HoldsLease job row workerId now ∧
        t.objects.get? job.objectId ≠ none ∧ AttemptRow.Ends a job ∧
        o = .ok (jobFromRow (row.complete now)) ∧
        Leaves t' (t.objects.update job.objectId fun record => record.complete stored now)
          (t.jobs.set row.jobId (row.complete now)) (t.attempts ++ [a])) ∨
      (t' = t ∧ ∃ e, o = .error e) := by
  refine Call.post_atomically (post_selectJob (fun e _ => Or.inr ⟨rfl, e, rfl⟩) fun row found => ?_)
  refine Call.post_ensure (fun _ => Or.inr ⟨rfl, _, rfl⟩) fun holds => ?_
  refine Call.post_query (fun e _ => Or.inr ⟨rfl, e, rfl⟩) fun record hrecord => ?_
  have hobject : t.objects.get? job.objectId ≠ none := by
    intro hnone
    simp [hnone] at hrecord
  refine Call.post_ensure (fun _ => Or.inr ⟨rfl, _, rfl⟩) fun _ => ?_
  refine Call.post_modify (Call.post_modify (Call.post_modify ?_))
  refine post_insert (fun e _ => Or.inr ⟨rfl, e, rfl⟩) fun _ => ?_
  refine post_insert (fun e _ => Or.inr ⟨rfl, e, rfl⟩) fun _ => ?_
  refine post_raiseAny (fun e _ => Or.inr ⟨rfl, e, rfl⟩) fun _ => ?_
  exact Or.inl ⟨row, _, found, holds, hobject, ⟨rfl, rfl⟩, rfl, rfl, rfl, rfl⟩

/-- The failure of `job` by the worker that holds its lease, and nothing in its way. -/
structure FailAdmitted (env : Env) (job : ObjectJob) (workerId : String) (now : Int) (t : Tables)
    (row : JobRow) : Prop where
  found : t.jobs.get? job.jobId = some row
  holds : HoldsLease job row workerId now
  unrecorded : ∀ other ∈ t.attempts,
    ¬(other.jobId = job.jobId ∧ other.attemptNumber = job.attempt)
  tried : 0 < job.attempt
  unaudited :
    t.audit.get? ("audit-attempt-" ++ job.jobId ++ "-" ++ toString job.attempt) = none
  commits : env.failure = none

theorem fail_spec (env : Env) (context : CloudAccessContext) (job : ObjectJob) (workerId : String)
    (error : ObjectQueueError) (now retryAt : Int) (t : Tables) :
    Call.Post (fail env context job workerId error now retryAt) t fun o t' =>
      (∃ row a, FailAdmitted env job workerId now t row ∧ AttemptRow.Ends a job ∧
        o = .ok (jobFromRow (row.fail (retries job error) error now retryAt)) ∧
        Leaves t' (if retries job error then t.objects
            else t.objects.update job.objectId ObjectRow.fail)
          (t.jobs.set row.jobId (row.fail (retries job error) error now retryAt))
          (t.attempts ++ [a])) ∨
      (t' = t ∧ (∃ e, o = .error e) ∧ ¬∃ row, FailAdmitted env job workerId now t row) := by
  refine Call.post_atomically (post_selectJob (fun e hnone => ?_) fun row found => ?_)
  · refine Or.inr ⟨rfl, ⟨e, rfl⟩, fun ⟨row, hrow⟩ => ?_⟩
    simp [hrow.found] at hnone
  have hsame : ∀ row', FailAdmitted env job workerId now t row' → row' = row := by
    intro row' hrow'
    exact Option.some.inj (hrow'.found.symm.trans found)
  refine Call.post_ensure (fun h => ?_) fun holds => ?_
  · refine Or.inr ⟨rfl, ⟨_, rfl⟩, fun ⟨row', hrow'⟩ => h ?_⟩
    exact hsame row' hrow' ▸ hrow'.holds
  have hrow : ∀ v, (t.jobs.set row.jobId v).get? job.jobId ≠ none := by
    intro v
    apply Dict.get?_set_ne_none
    simp [found]
  refine Call.post_modify (Call.post_modify (post_updateUnless ?_))
  refine post_insert (fun e h => ?_) fun hattempt => ?_
  · refine Or.inr ⟨rfl, ⟨e, rfl⟩, fun ⟨row', hrow'⟩ => h ?_⟩
    exact ⟨hrow'.unrecorded, hrow _, hrow'.tried⟩
  refine post_insert (fun e h => ?_) fun haudit => ?_
  · exact Or.inr ⟨rfl, ⟨e, rfl⟩, fun ⟨_, hrow'⟩ => h hrow'.unaudited⟩
  refine post_raiseAny (fun e h => ?_) fun commits => ?_
  · exact Or.inr ⟨rfl, ⟨e, rfl⟩, fun ⟨_, hrow'⟩ => h hrow'.commits⟩
  exact Or.inl ⟨row, _, ⟨found, holds, hattempt.1, hattempt.2.2, haudit, commits⟩, ⟨rfl, rfl⟩,
    rfl, rfl, rfl, rfl⟩

/-- The reprocessing of the dead-letter job `old`, and nothing in its way. -/
structure ReprocessAdmitted (sha256 : String → String) (env : Env) (context : CloudAccessContext)
    (jobId idempotencyKey : String) (createdAt : Int) (t : Tables) (old : JobRow) : Prop where
  capability : context.capability = "queue.reprocess"
  key : isSafeId idempotencyKey = true
  first : t.jobs.values.find? (fun row =>
    row.deduplicationKey = reprocessKey jobId idempotencyKey) = none
  found : t.jobs.get? jobId = some old
  deadLetter : old.state = .deadLetter
  outbox : t.AdmitsOutbox (registeredOutbox old.objectId
    (reprocessJob sha256 context jobId idempotencyKey old createdAt).eventId old.traceId createdAt)
  unused : t.jobs.get? (reprocessJob sha256 context jobId idempotencyKey old createdAt).jobId = none
  attempts : 1 ≤ old.maxAttempts ∧ old.maxAttempts ≤ 100
  retried : t.jobs.get? old.jobId ≠ none
  unaudited : t.audit.get?
    ("audit-reprocess-" ++ reprocessDigest sha256 context jobId idempotencyKey) = none
  commits : env.failure = none

/-- `reprocess` inserts a job for a dead-letter job, answers a repeated call with the job it
inserted, or is refused. -/
theorem reprocess_spec (env : Env) (context : CloudAccessContext) (jobId idempotencyKey : String)
    (createdAt : Int) (t : Tables) :
    Call.Post (reprocess sha256 env context jobId idempotencyKey createdAt) t fun o t' =>
      (∃ old, ReprocessAdmitted sha256 env context jobId idempotencyKey createdAt t old ∧
        o = .ok (jobFromRow (reprocessJob sha256 context jobId idempotencyKey old createdAt)) ∧
        Leaves t' (t.objects.update old.objectId ObjectRow.reopen)
          (t.jobs.set (reprocessJob sha256 context jobId idempotencyKey old createdAt).jobId
            (reprocessJob sha256 context jobId idempotencyKey old createdAt)) t.attempts) ∨
      (t' = t ∧ ((∃ e, o = .error e) ∨ ∃ row ∈ t.jobs.values, o = .ok (jobFromRow row)) ∧
        ¬∃ old, ReprocessAdmitted sha256 env context jobId idempotencyKey createdAt t old) := by
  refine Call.post_ensure (fun h => ?_) fun capability => ?_
  · exact Or.inr ⟨rfl, Or.inl ⟨_, rfl⟩, fun ⟨_, hold⟩ => h hold.capability⟩
  refine Call.post_ensure (fun h => ?_) fun key => ?_
  · exact Or.inr ⟨rfl, Or.inl ⟨_, rfl⟩, fun ⟨_, hold⟩ => h hold.key⟩
  refine Call.post_atomically (Call.post_get ?_)
  cases hfirst : t.jobs.values.find? (fun row =>
    row.deduplicationKey = reprocessKey jobId idempotencyKey) with
  | some existing =>
    refine Or.inr ⟨rfl, Or.inr ⟨existing, List.mem_of_find?_eq_some hfirst, rfl⟩, ?_⟩
    rintro ⟨old, hold⟩
    simp [hold.first] at hfirst
  | none =>
    refine post_selectJob (fun e hnone => ?_) fun old found => ?_
    · refine Or.inr ⟨rfl, Or.inl ⟨e, rfl⟩, fun ⟨old, hold⟩ => ?_⟩
      simp [hold.found] at hnone
    have hsame : ∀ old', ReprocessAdmitted sha256 env context jobId idempotencyKey createdAt t
        old' → old' = old := by
      intro old' hold'
      exact Option.some.inj (hold'.found.symm.trans found)
    refine Call.post_ensure (fun h => ?_) fun deadLetter => ?_
    · refine Or.inr ⟨rfl, Or.inl ⟨_, rfl⟩, fun ⟨old', hold'⟩ => h ?_⟩
      exact hsame old' hold' ▸ hold'.deadLetter
    refine post_insert (fun e h => ?_) fun outbox => ?_
    · refine Or.inr ⟨rfl, Or.inl ⟨e, rfl⟩, fun ⟨old', hold'⟩ => h ?_⟩
      exact hsame old' hold' ▸ hold'.outbox
    have hdedup : ∀ other ∈ t.jobs.values,
        other.deduplicationKey ≠ reprocessKey jobId idempotencyKey := by
      intro other hother
      simpa using List.find?_eq_none.1 hfirst other hother
    refine post_insert (fun e h => ?_) fun hjob => ?_
    · refine Or.inr ⟨rfl, Or.inl ⟨e, rfl⟩, fun ⟨old', hold'⟩ => h ?_⟩
      have hold := hsame old' hold' ▸ hold'
      refine ⟨hold.unused, hdedup, ?_, ?_, hold.attempts.1, hold.attempts.2⟩
      · exact (Dict.get?_set_self ..).trans_ne (by simp)
      · intro retried hretried
        cases hretried
        exact hold.retried
    refine Call.post_modify (post_insert (fun e h => ?_) fun haudit => ?_)
    · exact Or.inr ⟨rfl, Or.inl ⟨e, rfl⟩, fun ⟨_, hold⟩ => h hold.unaudited⟩
    refine post_raiseAny (fun e h => ?_) fun commits => ?_
    · exact Or.inr ⟨rfl, Or.inl ⟨e, rfl⟩, fun ⟨_, hold⟩ => h hold.commits⟩
    obtain ⟨unused, _, _, hretried, hmin, hmax⟩ := hjob
    exact Or.inl ⟨old, ⟨capability, key, hfirst, found, deadLetter, outbox, unused,
      ⟨hmin, hmax⟩, hretried _ rfl, haudit, commits⟩, rfl, rfl, rfl, rfl⟩

structure JobRow.New (row : JobRow) : Prop where
  state : row.state = .pending
  attempt : row.attempt = 0
  unleased : row.leaseOwner = none ∧ row.leaseUntil = none
  attempts : 1 ≤ row.maxAttempts

theorem newJob_new {jobId eventId objectId key : String} {maxAttempts : Nat}
    {retryOf : Option String} {actorId traceId : String} {createdAt : Int} (h : 1 ≤ maxAttempts) :
    (newJob jobId eventId objectId key maxAttempts retryOf actorId traceId createdAt).New :=
  ⟨rfl, rfl, ⟨rfl, rfl⟩, h⟩

theorem registerObjectJob_spec (env : Env) (context : CloudAccessContext) (objectId area : String)
    (staged : StagedObject) (finalKey key traceId : String) (maxAttempts : Nat) (createdAt : Int)
    (forceRollback : Bool) (t : Tables) :
    Call.Post (registerObjectJob sha256 env context objectId area staged finalKey key traceId
      maxAttempts createdAt forceRollback) t fun o t' =>
      (∃ object row submission, o = .ok submission ∧ object.status = .pending ∧ row.New ∧
        row.objectId = object.objectId ∧ t.objects.get? object.objectId = none ∧
        t.jobs.get? row.jobId = none ∧
        Leaves t' (t.objects.set object.objectId object) (t.jobs.set row.jobId row) t.attempts) ∨
      t' = t := by
  refine Call.post_ensure (fun _ => Or.inr rfl) fun _ => ?_
  refine Call.post_ensure (fun _ => Or.inr rfl) fun _ => ?_
  refine Call.post_ensure (fun _ => Or.inr rfl) fun _ => ?_
  refine Call.post_ensure (fun _ => Or.inr rfl) fun _ => ?_
  refine Call.post_ensure (fun _ => Or.inr rfl) fun _ => ?_
  refine Call.post_ensure (fun _ => Or.inr rfl) fun _ => ?_
  refine Call.post_ensure (fun _ => Or.inr rfl) fun ⟨_, hattempts, _⟩ => ?_
  refine Call.post_atomically (Call.post_get ?_)
  cases t.objects.values.find? fun row =>
    row.createdBy = context.actorId ∧ row.idempotencyKey = key with
  | some row => exact Call.post_ensure (fun _ => Or.inr rfl) fun _ => Or.inr rfl
  | none =>
    refine post_raiseAny (fun _ _ => Or.inr rfl) fun _ => ?_
    refine post_insert (fun _ _ => Or.inr rfl) fun hobject => ?_
    refine post_insert (fun _ _ => Or.inr rfl) fun _ => ?_
    refine post_insert (fun _ _ => Or.inr rfl) fun hjob => ?_
    refine post_insert (fun _ _ => Or.inr rfl) fun _ => ?_
    refine Call.post_ensure (fun _ => Or.inr rfl) fun _ => ?_
    refine post_raiseAny (fun _ _ => Or.inr rfl) fun _ => ?_
    exact Or.inl ⟨_, _, _, rfl, rfl, newJob_new hattempts, rfl, hobject.1, hjob.1, rfl, rfl, rfl⟩

theorem getJob_spec (jobId : String) (t : Tables) :
    Call.Post (getJob jobId) t fun o t' =>
      t' = t ∧ ((∃ e, o = .error e) ∨ ∃ row ∈ t.jobs.values, o = .ok (jobFromRow row)) := by
  refine post_selectJob (fun e _ => ⟨rfl, Or.inl ⟨e, rfl⟩⟩) fun row found => ?_
  exact ⟨rfl, Or.inr ⟨row, Dict.mem_values_of_get? found, rfl⟩⟩

/-! ## One step of the machine -/

/-- The transactions that may answer with a job they have only read. -/
def Transaction.Reads : Transaction → Prop
  | .getJob _ => True
  | .reprocess .. => True
  | _ => False

/-- The transaction is a claim, a failure or a reprocessing with nothing in its way. -/
def Admitted (sha256 : String → String) (s : System) (i : Input) : Prop :=
  match i.transaction with
  | .claim workerId now lease => ∃ row, ClaimAdmitted i.env workerId now lease s.tables row
  | .fail ticket workerId _ now _ =>
    ∃ job row, s.issued[ticket]? = some job ∧ FailAdmitted i.env job workerId now s.tables row
  | .reprocess jobId key createdAt =>
    ∃ old, ReprocessAdmitted sha256 i.env i.context jobId key createdAt s.tables old
  | _ => False

/-- What a transaction that writes nothing may answer: no claimed job, and any other job only when
it was to be read. -/
structure Answers (s : System) (i : Input) (o : Outcome) : Prop where
  notClaimed : ∀ job, o ≠ .ok (.claimed job)
  read : ∀ job ∈ issues o, i.transaction.Reads ∧ ∃ row ∈ s.tables.jobs.values, job = jobFromRow row

theorem answers_of_nil {s : System} {i : Input} {o : Outcome} (h : issues o = []) :
    Answers s i o := by
  refine ⟨fun job hjob => ?_, fun job hjob => ?_⟩
  · simp [hjob, issues, Reply.issues] at h
  · simp [h] at hjob

theorem answers_of_read {s : System} {i : Input} {row : JobRow} (reads : i.transaction.Reads)
    (stored : row ∈ s.tables.jobs.values) : Answers s i (.ok (.job (jobFromRow row))) := by
  refine ⟨fun job hjob => by simp at hjob, fun job hjob => ⟨reads, row, stored, ?_⟩⟩
  exact List.mem_singleton.1 hjob

/-- What a transaction answers and leaves. -/
inductive Effect (sha256 : String → String) (s : System) (i : Input) : Outcome → Tables → Prop where
  | unchanged {o : Outcome} (refused : ¬Admitted sha256 s i) (answers : Answers s i o) :
      Effect sha256 s i o s.tables
  | registered {submission : ObjectSubmission} {object : ObjectRow} {row : JobRow} {t' : Tables}
      (other : ¬Admitted sha256 s i) (pending : object.status = .pending) (new : row.New)
      (objectId : row.objectId = object.objectId)
      (unusedObject : s.tables.objects.get? object.objectId = none)
      (unused : s.tables.jobs.get? row.jobId = none)
      (leaves : Leaves t' (s.tables.objects.set object.objectId object)
        (s.tables.jobs.set row.jobId row) s.tables.attempts) :
      Effect sha256 s i (.ok (.submission submission)) t'
  | claimed {workerId : String} {now lease : Int} {row : JobRow} {t' : Tables}
      (transaction : i.transaction = .claim workerId now lease)
      (admitted : ClaimAdmitted i.env workerId now lease s.tables row)
      (leaves : Leaves t' s.tables.objects
        (s.tables.jobs.set row.jobId (row.lease workerId (now + lease))) s.tables.attempts) :
      Effect sha256 s i (.ok (.claimed (jobFromRow (row.lease workerId (now + lease))))) t'
  | completed {ticket : Nat} {workerId : String} {stored : StoredObject} {now : Int}
      {job : ObjectJob} {row : JobRow} {a : AttemptRow} {t' : Tables}
      (transaction : i.transaction = .complete ticket workerId stored now)
      (issued : s.issued[ticket]? = some job)
      (found : s.tables.jobs.get? job.jobId = some row) (holds : HoldsLease job row workerId now)
      (object : s.tables.objects.get? job.objectId ≠ none) (ends : a.Ends job)
      (leaves : Leaves t'
        (s.tables.objects.update job.objectId fun record => record.complete stored now)
        (s.tables.jobs.set row.jobId (row.complete now)) (s.tables.attempts ++ [a])) :
      Effect sha256 s i (.ok (.job (jobFromRow (row.complete now)))) t'
  | failed {ticket : Nat} {workerId : String} {error : ObjectQueueError} {now retryAt : Int}
      {job : ObjectJob} {row : JobRow} {a : AttemptRow} {t' : Tables}
      (transaction : i.transaction = .fail ticket workerId error now retryAt)
      (issued : s.issued[ticket]? = some job)
      (admitted : FailAdmitted i.env job workerId now s.tables row) (ends : a.Ends job)
      (leaves : Leaves t' (if retries job error then s.tables.objects
          else s.tables.objects.update job.objectId ObjectRow.fail)
        (s.tables.jobs.set row.jobId (row.fail (retries job error) error now retryAt))
        (s.tables.attempts ++ [a])) :
      Effect sha256 s i (.ok (.job (jobFromRow (row.fail (retries job error) error now retryAt))))
        t'
  | reprocessed {jobId key : String} {createdAt : Int} {old : JobRow} {t' : Tables}
      (transaction : i.transaction = .reprocess jobId key createdAt)
      (admitted : ReprocessAdmitted sha256 i.env i.context jobId key createdAt s.tables old)
      (leaves : Leaves t' (s.tables.objects.update old.objectId ObjectRow.reopen)
        (s.tables.jobs.set (reprocessJob sha256 i.context jobId key old createdAt).jobId
          (reprocessJob sha256 i.context jobId key old createdAt)) s.tables.attempts) :
      Effect sha256 s i
        (.ok (.job (jobFromRow (reprocessJob sha256 i.context jobId key old createdAt)))) t'

theorem issued_next (sha256 : String → String) (s : System) (i : Input) :
    ((machine sha256).next s i).issued = s.issued ++ issues ((machine sha256).answer s i) :=
  rfl

theorem effect_next (sha256 : String → String) (s : System) (i : Input) :
    Effect sha256 s i ((machine sha256).answer s i) ((machine sha256).next s i).tables := by
  obtain ⟨context, env, transaction⟩ := i
  have key : Call.Post (execute sha256 s.issued ⟨context, env, transaction⟩) s.tables
      (Effect sha256 s ⟨context, env, transaction⟩) := by
    cases transaction with
    | registerObjectJob objectId area staged finalKey key traceId maxAttempts createdAt rollback =>
      refine Call.post_map ((registerObjectJob_spec ..).mono ?_)
      intro o t' h
      rcases h with ⟨object, row, submission, rfl, pending, new, hid, hobject, hjob, leaves⟩ | rfl
      · exact .registered id pending new hid hobject hjob leaves
      · exact .unchanged id (answers_of_nil (by cases o <;> rfl))
    | claim workerId now lease =>
      refine Call.post_map ((claim_spec ..).mono ?_)
      intro o t' h
      rcases h with ⟨row, admitted, rfl, leaves⟩ | ⟨rfl, rfl | ⟨e, rfl⟩, refused⟩
      · exact .claimed rfl admitted leaves
      · exact .unchanged refused (answers_of_nil rfl)
      · exact .unchanged refused (answers_of_nil rfl)
    | getJob jobId =>
      refine Call.post_map ((getJob_spec ..).mono ?_)
      intro o t' h
      rcases h with ⟨rfl, ⟨e, rfl⟩ | ⟨row, hrow, rfl⟩⟩
      · exact .unchanged id (answers_of_nil rfl)
      · exact .unchanged id (answers_of_read trivial hrow)
    | complete ticket workerId stored now =>
      cases hjob : s.issued[ticket]? with
      | none =>
        simp only [execute, hjob]
        exact .unchanged id (answers_of_nil rfl)
      | some job =>
        simp only [execute, hjob]
        refine Call.post_map ((complete_spec ..).mono ?_)
        intro o t' h
        rcases h with ⟨row, a, found, holds, hobject, ends, rfl, leaves⟩ | ⟨rfl, e, rfl⟩
        · exact .completed rfl hjob found holds hobject ends leaves
        · exact .unchanged id (answers_of_nil rfl)
    | fail ticket workerId error now retryAt =>
      cases hjob : s.issued[ticket]? with
      | none =>
        simp only [execute, hjob]
        refine .unchanged ?_ (answers_of_nil rfl)
        rintro ⟨job, row, hissued, _⟩
        simp [hissued] at hjob
      | some job =>
        simp only [execute, hjob]
        refine Call.post_map ((fail_spec ..).mono ?_)
        intro o t' h
        rcases h with ⟨row, a, admitted, ends, rfl, leaves⟩ | ⟨rfl, ⟨e, rfl⟩, refused⟩
        · exact .failed rfl hjob admitted ends leaves
        · refine .unchanged ?_ (answers_of_nil rfl)
          rintro ⟨job', row, hissued, admitted⟩
          obtain rfl : job' = job := Option.some.inj (hissued.symm.trans hjob)
          exact refused ⟨row, admitted⟩
    | reprocess jobId key createdAt =>
      refine Call.post_map ((reprocess_spec ..).mono ?_)
      intro o t' h
      rcases h with ⟨old, admitted, rfl, leaves⟩ | ⟨rfl, ⟨e, rfl⟩ | ⟨row, hrow, rfl⟩, refused⟩
      · exact .reprocessed rfl admitted leaves
      · exact .unchanged refused (answers_of_nil rfl)
      · exact .unchanged refused (answers_of_read trivial hrow)
  exact key

end DaonUser.ObjectQueue
