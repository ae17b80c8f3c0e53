import DaonUser.ObjectQueue.Fencing

/-!
# Object queue: how often a job is claimed

`fail` gives a job up when its attempts are used, but `claim` takes an expired lease whatever the attempt,
so a job whose workers die is claimed without end (`exhausted_job_claimed`). `bounded_iff` says which claims
have to be kept away for the bound to hold. The history invariant is `Counted`.
-/

namespace DaonUser.ObjectQueue

open Lib

variable {sha256 : String → String}

/-! ## The property -/

def claimCount (history : List (Event System Input Outcome)) (jobId : String) : Nat :=
  history.countP fun e => (claimedJob e.output).any fun job => job.jobId = jobId

/-- No stored job has been tried more often than it may be. -/
def WithinAttempts (s : System) : Prop :=
  ∀ row ∈ s.tables.jobs.values, row.attempt ≤ row.maxAttempts

/-- No job is claimed more than `max_attempts` times. -/
structure Bounded (sha256 : String → String) (is : List Input) : Prop where
  attempts : (machine sha256).AllStates WithinAttempts (machine sha256).init is
  claims : ∀ pre post, is = pre ++ post → ∀ row ∈ ((machine sha256).run pre).tables.jobs.values,
    claimCount ((machine sha256).events pre) row.jobId ≤ row.maxAttempts
  exhausted : ∀ pre i post, is = pre ++ i :: post →
    ∀ job ∈ claimedJob ((machine sha256).answer ((machine sha256).run pre) i),
      claimCount ((machine sha256).events pre) job.jobId < job.maxAttempts

/-- The transaction does not claim a job whose last attempt ended with its lease. -/
def SparesExhausted (s : System) (i : Input) : Prop :=
  match i.transaction with
  | .claim workerId now lease => ∀ row, ClaimAdmitted i.env workerId now lease s.tables row →
      row.state = .leased → row.attempt < row.maxAttempts
  | _ => True

/-! ## The number of claims -/

def attemptOf (t : Tables) (jobId : String) : Nat := (t.jobs.get? jobId).elim 0 JobRow.attempt

/-- The attempt of every stored job is the number of its claims. -/
def Counted (history : List (Event System Input Outcome)) (s : System) : Prop :=
  ∀ jobId, claimCount history jobId = attemptOf s.tables jobId

theorem claimCount_concat (history : List (Event System Input Outcome))
    (e : Event System Input Outcome) (jobId : String) :
    claimCount (history ++ [e]) jobId = claimCount history jobId +
      if (claimedJob e.output).any fun job => job.jobId = jobId then 1 else 0 := by
  rw [claimCount, List.countP_append, List.countP_singleton]
  rfl

theorem attemptOf_set {t t' : Tables} (row : JobRow) (h : t'.jobs = t.jobs.set row.jobId row)
    (jobId : String) :
    attemptOf t' jobId = if row.jobId = jobId then row.attempt else attemptOf t jobId := by
  rw [attemptOf, h, Dict.get?_set]
  split
  · rfl
  · rfl

theorem attemptOf_set_same {t t' : Tables} (row : JobRow)
    (h : t'.jobs = t.jobs.set row.jobId row) (same : row.attempt = attemptOf t row.jobId)
    (jobId : String) : attemptOf t' jobId = attemptOf t jobId := by
  rw [attemptOf_set row h]
  split
  · next hid => rw [same, hid]
  · rfl

theorem attemptOf_of_get? {t : Tables} {jobId : String} {row : JobRow}
    (h : t.jobs.get? jobId = some row) : attemptOf t jobId = row.attempt := by
  rw [attemptOf, h, Option.elim_some]

theorem attemptOf_next {s : System} (h : Consistent s) (i : Input) (jobId : String) :
    attemptOf ((machine sha256).next s i).tables jobId = attemptOf s.tables jobId +
      if (claimedJob ((machine sha256).answer s i)).any fun job => job.jobId = jobId
      then 1 else 0 := by
  have heffect := effect_next sha256 s i
  generalize (machine sha256).answer s i = o at heffect ⊢
  generalize ((machine sha256).next s i).tables = t' at heffect ⊢
  cases heffect with
  | unchanged refused answers =>
    have hnone : claimedJob o = none := by
      unfold claimedJob
      split
      · next job => exact absurd rfl (answers.notClaimed job)
      · rfl
    simp [hnone]
  | registered other pending new hid unusedObject unused leaves =>
    refine attemptOf_set_same _ leaves.jobs ?_ jobId
    rw [attemptOf, unused, new.attempt, Option.elim_none]
  | @claimed workerId now lease row _ transaction admitted leaves =>
    have hrow := attemptOf_of_get? (h.get?_of_mem (candidate_mem admitted.chosen).1)
    rw [attemptOf_set (row.lease workerId (now + lease)) leaves.jobs]
    by_cases hid : row.jobId = jobId
    · simp [claimedJob, jobFromRow, JobRow.lease, hid, ← hrow]
    · simp [claimedJob, jobFromRow, JobRow.lease, hid]
  | completed transaction issued found holds object ends leaves =>
    obtain rfl := h.held issued found holds
    refine attemptOf_set_same (JobRow.complete _ _) leaves.jobs ?_ jobId
    exact (attemptOf_of_get? found).symm
  | failed transaction issued admitted ends leaves =>
    obtain rfl := h.held issued admitted.found admitted.holds
    refine attemptOf_set_same (JobRow.fail _ _ _ _ _) leaves.jobs ?_ jobId
    exact (attemptOf_of_get? admitted.found).symm
  | reprocessed transaction admitted leaves =>
    refine attemptOf_set_same _ leaves.jobs ?_ jobId
    rw [attemptOf, admitted.unused]
    rfl

theorem counted_run (sha256 : String → String) (is : List Input) :
    Counted ((machine sha256).events is) ((machine sha256).run is) := by
  have h := (machine sha256).history_induction
    (J := fun history s => Consistent s ∧ Counted history s)
    ⟨.init, fun jobId => by simp [claimCount, attemptOf, machine, Tables.empty]⟩ ?_ is
  · exact h.2
  rintro history s i ⟨hconsistent, hcounted⟩
  refine ⟨consistent_next hconsistent i, fun jobId => ?_⟩
  rw [claimCount_concat, hcounted jobId]
  exact (attemptOf_next hconsistent i jobId).symm

theorem candidate_below {s : System} (h : Consistent s) {i : Input} {workerId : String}
    {now lease : Int} {row : JobRow} (transaction : i.transaction = .claim workerId now lease)
    (admitted : ClaimAdmitted i.env workerId now lease s.tables row)
    (spares : SparesExhausted s i) : row.attempt < row.maxAttempts := by
  obtain ⟨hmem, claimable⟩ := candidate_mem admitted.chosen
  have hsound := h.sound (h.get?_of_mem hmem)
  rcases claimable with ⟨hpending | hwaiting, -⟩ | ⟨hleased, -⟩
  · have huntried := hsound.untried hpending
    have hattempts := hsound.attempts
    omega
  · exact hsound.waiting hwaiting
  · simp only [SparesExhausted, transaction] at spares
    exact spares row admitted hleased

theorem claimedJob_answer {s : System} {i : Input} {job : ObjectJob}
    (h : claimedJob ((machine sha256).answer s i) = some job) :
    ∃ workerId now lease row, i.transaction = .claim workerId now lease ∧
      ClaimAdmitted i.env workerId now lease s.tables row ∧
      job = jobFromRow (row.lease workerId (now + lease)) := by
  have heffect := effect_next sha256 s i
  generalize (machine sha256).answer s i = o at heffect h
  generalize ((machine sha256).next s i).tables = t' at heffect
  cases heffect with
  | unchanged refused answers =>
    unfold claimedJob at h
    split at h
    · next job => exact absurd rfl (answers.notClaimed job)
    · cases h
  | claimed transaction admitted leaves =>
    exact ⟨_, _, _, _, transaction, admitted, (Option.some.inj h).symm⟩
  | registered => cases h
  | completed => cases h
  | failed => cases h
  | reprocessed => cases h

theorem claimedJob_of_admitted {s : System} {i : Input} {workerId : String} {now lease : Int}
    {row : JobRow} (transaction : i.transaction = .claim workerId now lease)
    (admitted : ClaimAdmitted i.env workerId now lease s.tables row) :
    claimedJob ((machine sha256).answer s i) =
      some (jobFromRow (row.lease workerId (now + lease))) := by
  have hadmitted : Admitted sha256 s i := by
    simp only [Admitted, transaction]
    exact ⟨row, admitted⟩
  have heffect := effect_next sha256 s i
  generalize (machine sha256).answer s i = o at heffect ⊢
  generalize ((machine sha256).next s i).tables = t' at heffect
  cases heffect with
  | unchanged refused answers =>
    exact absurd hadmitted refused
  | claimed transaction' admitted' leaves =>
    obtain ⟨rfl, rfl, rfl⟩ : _ ∧ _ ∧ _ := by simpa [transaction] using transaction'
    rw [admitted.unique admitted']
    rfl
  | registered other => exact absurd hadmitted other
  | completed transaction' => simp [transaction] at transaction'
  | failed transaction' => simp [transaction] at transaction'
  | reprocessed transaction' => simp [transaction] at transaction'

theorem withinAttempts_next {s : System} (h : Consistent s) {i : Input} (hs : WithinAttempts s)
    (spares : SparesExhausted s i) : WithinAttempts ((machine sha256).next s i) := by
  have heffect := effect_next sha256 s i
  unfold WithinAttempts at hs ⊢
  generalize (machine sha256).answer s i = o at heffect
  generalize ((machine sha256).next s i).tables = t' at heffect ⊢
  have hset : ∀ row : JobRow, t'.jobs = s.tables.jobs.set row.jobId row →
      row.attempt ≤ row.maxAttempts → ∀ row ∈ t'.jobs.values, row.attempt ≤ row.maxAttempts := by
    intro row hjobs hrow other hother
    rw [hjobs] at hother
    rcases Dict.mem_values_set.1 hother with rfl | ⟨k, -, hold⟩
    · exact hrow
    · exact hs other (Dict.mem_values_of_get? hold)
  cases heffect with
  | unchanged refused answers => exact hs
  | registered other pending new hid unusedObject unused leaves =>
    refine hset _ leaves.jobs ?_
    rw [new.attempt]
    exact Nat.zero_le _
  | claimed transaction admitted leaves =>
    refine hset (JobRow.lease _ _ _) leaves.jobs ?_
    exact candidate_below h transaction admitted spares
  | completed transaction issued found holds object ends leaves =>
    have hrow := hs _ (Dict.mem_values_of_get? found)
    exact hset (JobRow.complete _ _) leaves.jobs hrow
  | failed transaction issued admitted ends leaves =>
    have hrow := hs _ (Dict.mem_values_of_get? admitted.found)
    exact hset (JobRow.fail _ _ _ _ _) leaves.jobs hrow
  | reprocessed transaction admitted leaves => exact hset _ leaves.jobs (Nat.zero_le _)

/-- The bound holds of a run exactly when no claim in it takes over the lease of a last attempt. -/
theorem bounded_iff (sha256 : String → String) (is : List Input) :
    Bounded sha256 is ↔ (machine sha256).AllSteps SparesExhausted (machine sha256).init is := by
  constructor
  · intro h
    rw [Machine.allSteps_iff]
    intro pre i post hsplit
    have hconsistent := consistent_run sha256 pre
    change SparesExhausted ((machine sha256).run pre) i
    unfold SparesExhausted
    split
    · next workerId now lease transaction =>
      intro row admitted _
      have hbound := h.exhausted pre i post hsplit _ (claimedJob_of_admitted transaction admitted)
      rw [counted_run sha256 pre] at hbound
      have hrow := attemptOf_of_get? (hconsistent.get?_of_mem (candidate_mem admitted.chosen).1)
      change attemptOf _ row.jobId < row.maxAttempts at hbound
      omega
    · trivial
  · intro h
    have hstep : ∀ s i, Consistent s ∧ WithinAttempts s → SparesExhausted s i →
        Consistent ((machine sha256).next s i) ∧ WithinAttempts ((machine sha256).next s i) :=
      fun s i hs spares => ⟨consistent_next hs.1 i, withinAttempts_next hs.1 hs.2 spares⟩
    have hinit : Consistent (machine sha256).init ∧ WithinAttempts (machine sha256).init :=
      ⟨.init, fun row hrow => by simp [machine, Tables.empty, Dict.values, Dict.empty] at hrow⟩
    refine ⟨?_, ?_, ?_⟩
    · exact ((machine sha256).allStates_of hstep hinit h).mono fun s hs => hs.2
    · rintro pre post rfl row hrow
      have hpre := (machine sha256).run_induction_of hinit hstep
        ((Machine.allSteps_append ..).1 h).1
      rw [counted_run sha256 pre, attemptOf_of_get? (hpre.1.get?_of_mem hrow)]
      exact hpre.2 row hrow
    · intro pre i post hsplit job hjob
      obtain ⟨workerId, now, lease, row, transaction, admitted, rfl⟩ := claimedJob_answer hjob
      have hconsistent := consistent_run sha256 pre
      have hrow := attemptOf_of_get? (hconsistent.get?_of_mem (candidate_mem admitted.chosen).1)
      rw [counted_run sha256 pre]
      change attemptOf _ row.jobId < row.maxAttempts
      rw [hrow]
      exact candidate_below hconsistent transaction admitted
        ((Machine.allSteps_iff _).1 h pre i post hsplit)

/-! ## A worker dies in the last attempt -/

namespace Sample

def sha256Hex (text : String) : String :=
  if text = "tenant|workspace|job-00000000000000000000000000000000|key-2" then
    "ec8830cbc1518eea26ceca158810837b08b76bda32576cdba5977dc464909264"
  else if text = "tenant|workspace|job-00000000000000000000000000000000|key-3" then
    "98de6b4a37499cc01fd53f5986d11c67a0ed6a86c9fd787e9f0a9d454a97a29b"
  else "f4bca81b6a1999bf1ce7c2f7087c173352ffbbb90d4608659130839183a321a4"

def context (capability : String) (h : isSafeId capability = true) : CloudAccessContext where
  tenantId := "tenant"
  workspaceId := "workspace"
  actorId := "actor"
  capability := capability
  safe := by simpa using ⟨by decide, by decide, by decide, h⟩

theorem isSafeId_write : isSafeId "object.write" = true := by decide

def call (capability : String) (transaction : Transaction)
    (h : isSafeId capability = true := by decide) : Input where
  context := context capability h
  env := { locked := fun _ => false, enforcer := none, failure := none }
  transaction := transaction

def objectId : String := "00000000000000000000000000000000"

def digest : String := "0000000000000000000000000000000000000000000000000000000000000000"

def staged : StagedObject where
  key := "_staging/tenant/workspace/source/00000000000000000000000000000000"
  digestSha256 := digest
  byteSize := 1
  contentType := "text/plain"
  etag := "etag"
  versionId := none

def register : Input :=
  call "object.write" (.registerObjectJob objectId "source" staged
    "tenant/workspace/source/00000000000000000000000000000000" "key-1" "trace" 1 0 false)
    isSafeId_write

def claim (workerId : String) (now : Int) : Input :=
  call "object.write" (.claim workerId now 1000000) isSafeId_write

end Sample

/-- A job of one attempt is claimed again after its worker died. -/
theorem exhausted_job_claimed : ¬∀ is, Bounded Sample.sha256Hex is := by
  intro h
  have hstates := (h [Sample.register, Sample.claim "worker-1" 0,
    Sample.claim "worker-2" 1000000]).attempts
  have hlast : ∀ row ∈ ((machine Sample.sha256Hex).run [Sample.register,
      Sample.claim "worker-1" 0, Sample.claim "worker-2" 1000000]).tables.jobs.values,
      row.attempt ≤ row.maxAttempts := hstates.2.2.2
  revert hlast
  decide

end DaonUser.ObjectQueue
