import DaonUser.Studio.Queue
import Mathlib.Data.List.Nodup

/-!
# When the queue of studio generations goes on

A job that has used its last attempt and lost its lease is still selected as the candidate of a claim, and
then not updated: the claim returns no job. `claims_iff` says exactly when this happens in a state that the
queue reaches: such a job comes before every job that could be claimed.
-/

namespace DaonUser.Studio

open Lib

variable {p : JobRow → Bool} {set : JobRow → JobRow} {jobs : List JobRow} {row : JobRow} {α : Type}
  {s : System} {env : Env}

/-! ## What every transaction keeps -/

/-- What an update may make of a row. -/
structure Evolves (row row' : JobRow) : Prop where
  key : row'.key = row.key
  bound : row'.maxAttempts = row.maxAttempts
  attempt : row'.attempt ≤ row'.maxAttempts
  waiting : row'.state = .queued → row'.attempt < row'.maxAttempts
  version : row.version ≤ row'.version
  same : row'.version = row.version → row'.attempt = row.attempt

/-- The rows are told apart by their keys, a job that waits has attempts left, and a job that a claim has
returned is older than its row or has its attempt. -/
structure Consistent (s : System) : Prop where
  keyed : (s.jobs.map JobRow.key).Nodup
  bound : ∀ row ∈ s.jobs, row.maxAttempts = 3
  attempt : ∀ row ∈ s.jobs, row.attempt ≤ row.maxAttempts
  waiting : ∀ row ∈ s.jobs, row.state = .queued → row.attempt < row.maxAttempts
  issued : ∀ job ∈ s.issued, ∀ row ∈ s.jobs, row.key = job.key →
    job.version ≤ row.version ∧ (job.version = row.version → job.attempt = row.attempt)
  present : ∀ job ∈ s.issued, ∃ row ∈ s.jobs, row.key = job.key

theorem mem_updated :
    row ∈ updated p set jobs ↔ ∃ old ∈ jobs, (if p old then set old else old) = row :=
  List.mem_map

theorem Consistent.updated {issued : List StudioGenerationJob} (h : Consistent ⟨jobs, issued⟩)
    (hset : ∀ row ∈ jobs, p row = true → Evolves row (set row)) :
    Consistent ⟨updated p set jobs, issued⟩ := by
  have hrow (row : JobRow) (hmem : row ∈ jobs) :
      Evolves row (if p row then set row else row) := by
    split
    · next hp => exact hset row hmem hp
    · exact ⟨rfl, rfl, h.attempt row hmem, h.waiting row hmem, le_rfl, fun _ => rfl⟩
  refine ⟨?_, ?_, ?_, ?_, ?_, ?_⟩
  · have hkeys : (Studio.updated p set jobs).map JobRow.key = jobs.map JobRow.key := by
      rw [Studio.updated, List.map_map]
      exact List.map_congr_left fun row hmem => (hrow row hmem).key
    rw [hkeys]
    exact h.keyed
  · intro row' hmem'
    obtain ⟨row, hmem, rfl⟩ := mem_updated.1 hmem'
    exact (hrow row hmem).bound.trans (h.bound row hmem)
  · intro row' hmem'
    obtain ⟨row, hmem, rfl⟩ := mem_updated.1 hmem'
    exact (hrow row hmem).attempt
  · intro row' hmem'
    obtain ⟨row, hmem, rfl⟩ := mem_updated.1 hmem'
    exact (hrow row hmem).waiting
  · intro job hjob row' hmem' hkey
    obtain ⟨row, hmem, rfl⟩ := mem_updated.1 hmem'
    have hevolves := hrow row hmem
    obtain ⟨hle, hsame⟩ := h.issued job hjob row hmem (hevolves.key.symm.trans hkey)
    refine ⟨hle.trans hevolves.version, fun heq => ?_⟩
    have hversion : job.version = row.version := by
      have := hevolves.version
      omega
    rw [hevolves.same (heq.symm.trans hversion)]
    exact hsame hversion
  · intro job hjob
    obtain ⟨row, hmem, hkey⟩ := h.present job hjob
    exact ⟨_, mem_updated.2 ⟨row, hmem, rfl⟩, (hrow row hmem).key.trans hkey⟩

theorem Consistent.issue {issued : List StudioGenerationJob}
    (h : Consistent ⟨jobs, issued⟩) {job : StudioGenerationJob}
    (hpresent : ∃ row ∈ jobs, row.key = job.key) (hjob : ∀ row ∈ jobs, row.key = job.key →
      job.version ≤ row.version ∧ (job.version = row.version → job.attempt = row.attempt)) :
    Consistent ⟨jobs, issued ++ [job]⟩ := by
  refine ⟨h.keyed, h.bound, h.attempt, h.waiting, fun job' hmem => ?_, fun job' hmem => ?_⟩
  · rcases List.mem_append.1 hmem with hold | hnew
    · exact h.issued job' hold
    · rw [List.mem_singleton.1 hnew]
      exact hjob
  · rcases List.mem_append.1 hmem with hold | hnew
    · exact h.present job' hold
    · rw [List.mem_singleton.1 hnew]
      exact hpresent

/-! ## The transactions -/

section Transactions

variable {env : Env} {jobs jobs' : List JobRow} {issued : List StudioGenerationJob}
  {job : StudioGenerationJob}

theorem updateJob_eq_ok (h : updateJob job p set jobs = .ok jobs') :
    jobs' = updated (fun row => row.key = job.key && row.version = job.version && p row) set jobs := by
  unfold updateJob at h
  dsimp only at h
  split at h
  · exact (Except.ok.inj h).symm
  · cases h

theorem checkScope_bind {f : Unit → Except StudioGenerationQueueError α} {a : α}
    (h : (checkScope job >>= f) = .ok a) : f () = .ok a := by
  unfold checkScope at h
  split at h
  · exact h
  · cases h

theorem mem_candidate (h : candidate env jobs = some row) :
    row ∈ jobs ∧ row.Claimable env.now ∧ env.locked row.key = false := by
  have hmem := @List.argmin_mem _ _ candidateOrder.toPreorder candidateOrder.toDecidableLT _ _ _ h
  simpa using hmem

theorem Consistent.claim (h : Consistent ⟨jobs, issued⟩) {workerId : String} {leaseSeconds : Int}
    {claimed : Option StudioGenerationJob}
    (hclaim : claim env workerId leaseSeconds jobs = .ok (claimed, jobs')) :
    Consistent ⟨jobs', issued ++ claimed.toList⟩ := by
  unfold Studio.claim at hclaim
  split at hclaim
  · cases hclaim
  cases hcandidate : candidate env jobs with
  | none =>
    rw [hcandidate] at hclaim
    cases hclaim
    rwa [Option.toList_none, List.append_nil]
  | some row =>
    rw [hcandidate] at hclaim
    dsimp only at hclaim
    obtain ⟨hmem, -, -⟩ := mem_candidate hcandidate
    have hrow (other : JobRow) (hother : other ∈ jobs) (hkey : other.key = row.key) : other = row :=
      List.inj_on_of_nodup_map h.keyed hother hmem hkey
    split at hclaim
    · next hattempt =>
      cases hclaim
      refine (h.updated fun other hother hp => ?_).issue ⟨_, mem_updated.2 ⟨row, hmem, rfl⟩, ?_⟩
        fun other' hother' hkey => ?_
      · obtain rfl := hrow other hother (by simpa using hp)
        have hleased : (other.lease workerId (env.now + leaseSeconds * 1000000)).state ≠ .queued := by
          simp [JobRow.lease]
        exact ⟨rfl, rfl, hattempt, fun hstate => absurd hstate hleased, Nat.le_succ _,
          fun hversion => absurd hversion (Nat.succ_ne_self _)⟩
      · rw [if_pos (by simp)]
        rfl
      · obtain ⟨other, hother, rfl⟩ := mem_updated.1 hother'
        have hsame : other.key = row.key := by
          by_cases hp : other.key = row.key
          · exact hp
          · rw [if_neg (by simpa using hp)] at hkey
            exact hkey
        obtain rfl := hrow other hother hsame
        rw [if_pos (by simp)]
        exact ⟨le_rfl, fun _ => rfl⟩
    · cases hclaim
      rwa [Option.toList_none, List.append_nil]

theorem Consistent.start (h : Consistent ⟨jobs, issued⟩) (hstart : start job jobs = .ok jobs') :
    Consistent ⟨jobs', issued⟩ := by
  rw [updateJob_eq_ok (checkScope_bind hstart)]
  refine h.updated fun row hmem hp => ⟨rfl, rfl, h.attempt row hmem, fun hstate => ?_, le_rfl,
    fun _ => rfl⟩
  cases hstate

theorem Consistent.retry (h : Consistent ⟨jobs, issued⟩) (hjob : job ∈ issued) {errorCode : String}
    {delaySeconds : Int} {queued : Bool}
    (hretry : retry env job errorCode delaySeconds jobs = .ok (queued, jobs')) :
    Consistent ⟨jobs', issued⟩ := by
  unfold Studio.retry at hretry
  split at hretry
  · cases hretry
    exact h
  next hattempt =>
  cases hupdate : updateJob job (fun row => row.InWork)
      (·.requeue errorCode (env.now + delaySeconds * 1000000)) jobs with
  | error e =>
    have hbody := checkScope_bind hretry
    rw [hupdate] at hbody
    cases hbody
  | ok rows =>
    have hbody := checkScope_bind hretry
    rw [hupdate] at hbody
    cases hbody
    rw [updateJob_eq_ok hupdate]
    refine h.updated fun row hmem hp => ?_
    simp only [Bool.and_eq_true, decide_eq_true_eq] at hp
    obtain ⟨⟨hkey, hversion⟩, -⟩ := hp
    -- the job that the worker holds has the attempt of its row
    have hsame : job.attempt = row.attempt := (h.issued job hjob row hmem hkey).2 hversion.symm
    have hleft : row.attempt < row.maxAttempts := by
      rw [h.bound row hmem]
      omega
    exact ⟨rfl, rfl, hleft.le, fun _ => hleft, Nat.le_succ _,
      fun heq => absurd heq (Nat.succ_ne_self _)⟩

theorem Consistent.finish (h : Consistent ⟨jobs, issued⟩) {state : JobState}
    {errorCode studioOutputId outputVersionId : Option String}
    (hfinish : finish env job state errorCode studioOutputId outputVersionId jobs = .ok jobs') :
    Consistent ⟨jobs', issued⟩ := by
  unfold Studio.finish at hfinish
  split at hfinish
  · cases hfinish
  next hterminal =>
  rw [updateJob_eq_ok (checkScope_bind hfinish)]
  have hstate : state ≠ .queued := by
    rintro rfl
    exact hterminal (by decide)
  exact h.updated fun row hmem hp => ⟨rfl, rfl, h.attempt row hmem, fun heq => absurd heq hstate,
    Nat.le_succ _, fun heq => absurd heq (Nat.succ_ne_self _)⟩

theorem Consistent.enqueue (h : Consistent ⟨jobs, issued⟩) {new : NewJob}
    (henqueue : enqueue env new jobs = .ok jobs') : Consistent ⟨jobs', issued⟩ := by
  unfold Studio.enqueue at henqueue
  split at henqueue
  · cases henqueue
  next hclash =>
  cases henqueue
  have hnew (row : JobRow) (hmem : row ∈ jobs) : row.key ≠ (new.row env.now).key := by
    intro hkey
    refine hclash (List.any_eq_true.2 ⟨row, hmem, ?_⟩)
    simp [JobRow.clashes, hkey]
  refine ⟨?_, ?_, ?_, ?_, ?_, ?_⟩
  · rw [List.map_append, List.nodup_append]
    refine ⟨h.keyed, by simp, ?_⟩
    intro key hkey key' hkey' heq
    obtain ⟨row, hmem, rfl⟩ := List.mem_map.1 hkey
    exact hnew row hmem (heq.trans (List.mem_singleton.1 hkey'))
  · intro row hmem
    rcases List.mem_append.1 hmem with hold | hadded
    · exact h.bound row hold
    · rw [List.mem_singleton.1 hadded]
      rfl
  · intro row hmem
    rcases List.mem_append.1 hmem with hold | hadded
    · exact h.attempt row hold
    · rw [List.mem_singleton.1 hadded]
      exact Nat.zero_le _
  · intro row hmem
    rcases List.mem_append.1 hmem with hold | hadded
    · exact h.waiting row hold
    · rw [List.mem_singleton.1 hadded]
      exact fun _ => Nat.zero_lt_succ _
  · intro job hjob row hmem hkey
    rcases List.mem_append.1 hmem with hold | hadded
    · exact h.issued job hjob row hold hkey
    · obtain ⟨old, hold, hsame⟩ := h.present job hjob
      rw [List.mem_singleton.1 hadded] at hkey
      exact absurd (hsame.trans hkey.symm) (hnew old hold)
  · intro job hjob
    obtain ⟨row, hmem, hkey⟩ := h.present job hjob
    exact ⟨row, List.mem_append_left _ hmem, hkey⟩

end Transactions

theorem map_eq_ok {ε β : Type} {f : α → β} {x : Except ε α} {b : β} (h : x.map f = .ok b) :
    ∃ a, x = .ok a ∧ f a = b := by
  cases x with
  | error e => cases h
  | ok a => exact ⟨a, rfl, Except.ok.inj h⟩

theorem job_bind {ticket : Nat} {f : StudioGenerationJob → Except StudioGenerationQueueError α} {a : α}
    (h : (s.job ticket >>= f) = .ok a) : ∃ job ∈ s.issued, f job = .ok a := by
  unfold System.job at h
  cases hjob : s.issued[ticket]? with
  | none =>
    rw [hjob] at h
    cases h
  | some job =>
    rw [hjob] at h
    exact ⟨job, List.mem_of_getElem? hjob, h⟩

theorem Consistent.execute (h : Consistent s) {transaction : Transaction}
    {reply : Reply} {jobs' : List JobRow} (hexecute : execute s env transaction = .ok (reply, jobs')) :
    Consistent ⟨jobs', s.issued ++ reply.issued⟩ := by
  cases transaction with
  | enqueue new =>
    obtain ⟨jobs, henqueue, heq⟩ := map_eq_ok hexecute
    cases heq
    change Consistent ⟨_, s.issued ++ []⟩
    rw [List.append_nil]
    exact h.enqueue henqueue
  | claim workerId leaseSeconds =>
    obtain ⟨⟨claimed, jobs⟩, hclaim, heq⟩ := map_eq_ok hexecute
    cases heq
    exact h.claim hclaim
  | start ticket =>
    obtain ⟨job, hjob, hbody⟩ := job_bind hexecute
    obtain ⟨jobs, hstart, heq⟩ := map_eq_ok hbody
    cases heq
    change Consistent ⟨_, s.issued ++ []⟩
    rw [List.append_nil]
    exact h.start hstart
  | retry ticket errorCode delaySeconds =>
    obtain ⟨job, hjob, hbody⟩ := job_bind hexecute
    obtain ⟨⟨queued, jobs⟩, hretry, heq⟩ := map_eq_ok hbody
    cases heq
    change Consistent ⟨_, s.issued ++ []⟩
    rw [List.append_nil]
    exact h.retry hjob hretry
  | finish ticket state errorCode studioOutputId outputVersionId =>
    obtain ⟨job, hjob, hbody⟩ := job_bind hexecute
    obtain ⟨jobs, hfinish, heq⟩ := map_eq_ok hbody
    cases heq
    change Consistent ⟨_, s.issued ++ []⟩
    rw [List.append_nil]
    exact h.finish hfinish

theorem Consistent.next (h : Consistent s) (i : Input) : Consistent (queue.next s i) := by
  unfold Machine.next
  simp only [queue]
  cases htransact : transact s i with
  | error e => exact h
  | ok result =>
    obtain ⟨reply, s'⟩ := result
    dsimp only
    unfold transact at htransact
    cases hexecute : Studio.execute s i.env i.transaction with
    | error e =>
      rw [hexecute] at htransact
      cases htransact
    | ok executed =>
      rw [hexecute] at htransact
      cases hfailure : i.env.failure with
      | some e =>
        rw [hfailure] at htransact
        cases htransact
      | none =>
        rw [hfailure] at htransact
        cases htransact
        exact h.execute hexecute

theorem consistent_of_reachable (h : queue.Reachable s) : Consistent s :=
  h.induction ⟨List.nodup_nil, by simp [queue], by simp [queue], by simp [queue], by simp [queue],
    by simp [queue]⟩ fun _ i hs => hs.next i

/-! ## Progress -/

/-- A claim could take the job. -/
structure Eligible (now : Int) (locked : JobKey → Bool) (row : JobRow) : Prop where
  claimable : row.Claimable now
  attempt : row.attempt < row.maxAttempts
  unlocked : locked row.key = false

/-- The job has lost its lease on its last attempt. -/
structure Stranded (now : Int) (locked : JobKey → Bool) (row : JobRow) : Prop where
  inWork : row.InWork
  expired : ∃ leaseUntil ∈ row.leaseUntil, leaseUntil < now
  attempt : row.attempt = row.maxAttempts
  unlocked : locked row.key = false

/-- The job comes first in the `ORDER BY`. -/
def JobRow.Before (row other : JobRow) : Prop := rankOrder.lt row.rank other.rank

/-- If a claim could take a job it returns one, whichever of the rows the `ORDER BY` does not separate
comes first. -/
def Claims (now : Int) (locked : JobKey → Bool) (jobs : List JobRow) : Prop :=
  (∃ row ∈ jobs, Eligible now locked row) →
    ∀ (env : Env) workerId leaseSeconds, env.now = now → env.locked = locked →
      isLongId workerId = true → 10 ≤ leaseSeconds → leaseSeconds ≤ 3600 →
      ∃ job jobs', claim env workerId leaseSeconds jobs = .ok (some job, jobs')

theorem candidate_le {other : JobRow}
    (h : candidate env jobs = some row) (hother : other ∈ jobs) (hclaimable : other.Claimable env.now)
    (hlocked : env.locked other.key = false) :
    candidateOrder.le (toLex (row.rank, env.tie row.key)) (toLex (other.rank, env.tie other.key)) :=
  @List.le_of_mem_argmin _ _ candidateOrder
    (fun row : JobRow => toLex (row.rank, env.tie row.key)) _ _ _
    (by simp [hother, hclaimable, hlocked]) h

theorem exists_candidate (hmem : row ∈ jobs)
    (hclaimable : row.Claimable env.now) (hlocked : env.locked row.key = false) :
    ∃ first, candidate env jobs = some first := by
  cases hcandidate : candidate env jobs with
  | some first => exact ⟨first, rfl⟩
  | none =>
    have hnil := @List.argmin_eq_none _ _ candidateOrder.toPreorder candidateOrder.toDecidableLT
      (fun row : JobRow => toLex (row.rank, env.tie row.key))
      (jobs.filter fun row => row.Claimable env.now ∧ env.locked row.key = false)
    have hempty := hnil.1 hcandidate
    rw [List.filter_eq_nil_iff] at hempty
    exact absurd (by simp [hclaimable, hlocked]) (hempty row hmem)

theorem claim_eq {workerId : String}
    {leaseSeconds : Int} (h : candidate env jobs = some row) (hworker : isLongId workerId = true)
    (hshort : 10 ≤ leaseSeconds) (hlong : leaseSeconds ≤ 3600) :
    (∃ job jobs', claim env workerId leaseSeconds jobs = .ok (some job, jobs')) ↔
      row.attempt < row.maxAttempts := by
  unfold claim
  rw [if_neg (by rw [hworker]; simp; omega), h]
  dsimp only
  split
  · next hattempt => exact iff_of_true ⟨_, _, rfl⟩ hattempt
  · next hattempt => exact iff_of_false (by simp) hattempt

/-- In every state that the queue reaches, at every time and whatever is locked, a claim goes on if and only
if some job that it could take comes before every job that lost its lease on its last attempt. -/
theorem claims_iff {s : System} (h : queue.Reachable s) (now : Int) (locked : JobKey → Bool) :
    Claims now locked s.jobs ↔ ((∃ row ∈ s.jobs, Eligible now locked row) →
      ∀ stranded ∈ s.jobs, Stranded now locked stranded →
        ∃ row ∈ s.jobs, Eligible now locked row ∧ row.Before stranded) := by
  have hconsistent := consistent_of_reachable h
  constructor
  · intro hclaims heligible stranded hmem hstranded
    by_contra hnone
    push Not at hnone
    -- the database may take the stranded job first
    let env : Env := ⟨now, locked, fun key => if key = stranded.key then 0 else 1, none⟩
    have hclaimable : stranded.Claimable now := Or.inr ⟨hstranded.inWork, hstranded.expired⟩
    obtain ⟨first, hfirst⟩ : ∃ first, candidate env s.jobs = some first :=
      exists_candidate hmem hclaimable hstranded.unlocked
    have hclaim := hclaims heligible env "w" 10 rfl rfl (by decide) (by decide) (by decide)
    have hattempt := (claim_eq hfirst (by decide) (by decide) (by decide)).1 hclaim
    obtain ⟨hfirstMem, hfirstClaimable, hfirstLocked⟩ := mem_candidate hfirst
    have hbefore := hnone first hfirstMem ⟨hfirstClaimable, hattempt, hfirstLocked⟩
    have hne : first.key ≠ stranded.key := by
      intro hkey
      have hsame : first = stranded := List.inj_on_of_nodup_map hconsistent.keyed hfirstMem hmem hkey
      rw [hsame, hstranded.attempt] at hattempt
      exact absurd hattempt (Nat.lt_irrefl _)
    have hle := candidate_le hfirst hmem hclaimable hstranded.unlocked
    rcases (@Prod.Lex.le_iff _ _ rankOrder.toLT _ _ _).1 hle with hlt | ⟨-, htie⟩
    · exact hbefore hlt
    · simp [env, hne] at htie
  · rintro hclear ⟨row, hmem, heligible⟩ env workerId leaseSeconds rfl rfl hworker hshort hlong
    obtain ⟨first, hfirst⟩ := exists_candidate hmem heligible.claimable heligible.unlocked
    obtain ⟨hfirstMem, hfirstClaimable, hfirstLocked⟩ := mem_candidate hfirst
    rw [claim_eq hfirst hworker hshort hlong]
    by_contra hattempt
    have hspent : first.attempt = first.maxAttempts :=
      le_antisymm (hconsistent.attempt first hfirstMem) (Nat.not_lt.1 hattempt)
    have hstranded : Stranded env.now env.locked first := by
      rcases hfirstClaimable with ⟨hqueued, -⟩ | ⟨hinWork, hexpired⟩
      · exact absurd (hconsistent.waiting first hfirstMem hqueued) hattempt
      · exact ⟨hinWork, hexpired, hspent, hfirstLocked⟩
    obtain ⟨other, hother, hotherEligible, hbefore⟩ := hclear ⟨row, hmem, heligible⟩ first hfirstMem hstranded
    have hle := candidate_le hfirst hother hotherEligible.claimable hotherEligible.unlocked
    rcases (@Prod.Lex.le_iff _ _ rankOrder.toLT _ _ _).1 hle with hlt | ⟨heq, -⟩
    · exact @lt_asymm _ rankOrder.toPreorder _ _ hbefore hlt
    · have hrank : first.rank = other.rank := heq
      rw [JobRow.Before, hrank] at hbefore
      exact @lt_irrefl _ rankOrder.toPreorder _ hbefore

def quiet (now : Int) : Env := ⟨now, fun _ => false, fun _ => 0, none⟩

/-- A worker takes a job three times and stops each time, and then another job comes. -/
def strandedRun : List Input :=
  [⟨quiet 0, .enqueue ⟨"t", "w", "a", "u", "r", "p", "k", "{}"⟩⟩,
    ⟨quiet 0, .claim "worker" 10⟩, ⟨quiet 20000000, .claim "worker" 10⟩,
    ⟨quiet 40000000, .claim "worker" 10⟩,
    ⟨quiet 60000000, .enqueue ⟨"t", "w", "b", "u", "r", "p", "l", "{}"⟩⟩]

theorem claim_blocked : ¬∀ s, queue.Reachable s → ∀ now locked, Claims now locked s.jobs := by
  intro h
  have heligible : ∃ row ∈ (queue.run strandedRun).jobs,
      row.Claimable 60000000 ∧ row.attempt < row.maxAttempts := by
    decide
  obtain ⟨row, hmem, hclaimable, hattempt⟩ := heligible
  obtain ⟨job, jobs', hclaim⟩ := h _ ⟨strandedRun, rfl⟩ 60000000 (fun _ => false)
    ⟨row, hmem, hclaimable, hattempt, rfl⟩ (quiet 60000000) "w" 10 rfl rfl (by decide) (by decide)
    (by decide)
  have hnone : ∀ r ∈ (claim (quiet 60000000) "w" 10 (queue.run strandedRun).jobs).toOption,
      r.1 = none := by
    decide
  rw [hclaim] at hnone
  cases hnone _ rfl

/-- Before the other job comes there is nothing to claim. -/
theorem claims_stranded : Claims 60000000 (fun _ => false) (queue.run (strandedRun.take 4)).jobs := by
  refine (claims_iff ⟨strandedRun.take 4, rfl⟩ 60000000 fun _ => false).2 ?_
  rintro ⟨row, hmem, heligible⟩
  have hnone : ∀ row ∈ (queue.run (strandedRun.take 4)).jobs, ¬row.attempt < row.maxAttempts := by
    decide
  exact absurd heligible.attempt (hnone row hmem)

end DaonUser.Studio
