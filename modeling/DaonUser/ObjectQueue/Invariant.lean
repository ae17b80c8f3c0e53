import DaonUser.ObjectQueue.Spec

/-!
# Object queue: the invariant

`JobRow.Moves` says how a stored job row may be written over. `Consistent` is what the rows of a scope and
the `ObjectJob` values handed out satisfy: the lease columns are set exactly while a job is leased, its
recorded attempts are below the one in progress, and an `ObjectJob` is the row it was read from or an older
version of it.
-/

namespace DaonUser.ObjectQueue

open Lib

variable {sha256 : String → String}

/-! ## Job rows -/

structure JobRow.Sound (row : JobRow) : Prop where
  leased : row.state = .leased → row.leaseOwner.isSome ∧ row.leaseUntil.isSome
  unleased : row.state ≠ .leased → row.leaseOwner = none ∧ row.leaseUntil = none
  attempts : 1 ≤ row.maxAttempts
  untried : row.state = .pending → row.attempt = 0
  tried : row.state = .leased → 0 < row.attempt
  waiting : row.state = .retryWait → row.attempt < row.maxAttempts

inductive JobRow.Moves : JobRow → JobRow → Prop where
  | leased {row : JobRow} {now leaseUntil : Int} {workerId : String}
      (claimable : row.Claimable now) : Moves row (row.lease workerId leaseUntil)
  | completed {row : JobRow} {now : Int} (leased : row.state = .leased) :
      Moves row (row.complete now)
  | failed {row : JobRow} {retry : Bool} {error : ObjectQueueError} {now retryAt : Int}
      (leased : row.state = .leased) (again : retry = true → row.attempt < row.maxAttempts) :
      Moves row (row.fail retry error now retryAt)

def JobState.Final (state : JobState) : Prop := state = .completed ∨ state = .deadLetter

theorem JobRow.Claimable.not_final {row : JobRow} {now : Int} (h : row.Claimable now) :
    ¬row.state.Final := by
  rcases h with ⟨h | h, _⟩ | ⟨h, _⟩ <;> simp [h, JobState.Final]

theorem JobRow.New.sound {row : JobRow} (h : row.New) : row.Sound where
  leased hleased := by simp [h.state] at hleased
  unleased _ := h.unleased
  attempts := h.attempts
  untried _ := h.attempt
  tried hleased := by simp [h.state] at hleased
  waiting hwaiting := by simp [h.state] at hwaiting

namespace JobRow.Moves

variable {row row' : JobRow}

theorem not_final (h : Moves row row') : ¬row.state.Final := by
  cases h with
  | leased claimable => exact claimable.not_final
  | completed leased => simp [leased, JobState.Final]
  | failed leased again => simp [leased, JobState.Final]

theorem jobId (h : Moves row row') : row'.jobId = row.jobId := by
  cases h <;> rfl

theorem objectId (h : Moves row row') : row'.objectId = row.objectId := by
  cases h <;> rfl

theorem version (h : Moves row row') : row'.version = row.version + 1 := by
  cases h <;> rfl

theorem sound (h : Moves row row') (hrow : row.Sound) : row'.Sound := by
  cases h with
  | leased claimable =>
    exact {
      leased := fun _ => ⟨rfl, rfl⟩
      unleased := fun h => absurd rfl h
      attempts := hrow.attempts
      untried := fun h => by simp [JobRow.lease] at h
      tried := fun _ => Nat.succ_pos _
      waiting := fun h => by simp [JobRow.lease] at h }
  | completed leased =>
    exact {
      leased := fun h => by simp [JobRow.complete] at h
      unleased := fun _ => ⟨rfl, rfl⟩
      attempts := hrow.attempts
      untried := fun h => by simp [JobRow.complete] at h
      tried := fun h => by simp [JobRow.complete] at h
      waiting := fun h => by simp [JobRow.complete] at h }
  | @failed retry error now retryAt leased again =>
    exact {
      leased := fun h => by cases retry <;> simp [JobRow.fail] at h
      unleased := fun _ => ⟨rfl, rfl⟩
      attempts := hrow.attempts
      untried := fun h => by cases retry <;> simp [JobRow.fail] at h
      tried := fun h => by cases retry <;> simp [JobRow.fail] at h
      waiting := fun h => by
        cases retry with
        | false => simp [JobRow.fail] at h
        | true => exact again rfl }

end JobRow.Moves

/-! ## The invariant -/

/-- The `ObjectJob` was read from the row, or from the row before it was last written. -/
def Snapshot (job : ObjectJob) (row : JobRow) : Prop :=
  job = jobFromRow row ∨ job.version < row.version

def AttemptRow.Past (a : AttemptRow) (row : JobRow) : Prop :=
  a.attemptNumber ≤ row.attempt ∧ (row.state = .leased → a.attemptNumber < row.attempt)

/-- The key of a row of `job_attempts`. -/
def AttemptRow.key (a : AttemptRow) : String × Nat := (a.jobId, a.attemptNumber)

/-- The objects are kept under their ids. -/
def Keyed (objects : Dict String ObjectRow) : Prop :=
  ∀ k object, objects.get? k = some object → object.objectId = k

theorem Keyed.set {objects : Dict String ObjectRow} (h : Keyed objects) (object : ObjectRow) :
    Keyed (objects.set object.objectId object) := by
  intro k other hother
  rw [Dict.get?_set] at hother
  split at hother
  · next hk =>
    obtain rfl := Option.some.inj hother
    exact hk
  · exact h k other hother

theorem Keyed.update {objects : Dict String ObjectRow} (h : Keyed objects) (objectId : String)
    {f : ObjectRow → ObjectRow} (hf : ∀ object, (f object).objectId = object.objectId) :
    Keyed (objects.update objectId f) := by
  intro k other hother
  rw [Dict.get?_update] at hother
  split at hother
  · obtain ⟨object, hobject, rfl⟩ := Option.map_eq_some_iff.1 hother
    rw [hf, h k object hobject]
  · exact h k other hother

structure Consistent (s : System) : Prop where
  objectId : Keyed s.tables.objects
  jobId : ∀ {k row}, s.tables.jobs.get? k = some row → row.jobId = k
  sound : ∀ {k row}, s.tables.jobs.get? k = some row → row.Sound
  object : ∀ {k row}, s.tables.jobs.get? k = some row →
    s.tables.objects.get? row.objectId ≠ none
  attempts : ∀ a ∈ s.tables.attempts, ∃ row, s.tables.jobs.get? a.jobId = some row ∧ a.Past row
  attemptKeys : (s.tables.attempts.map AttemptRow.key).Nodup
  issued : ∀ job ∈ s.issued, ∃ row, s.tables.jobs.get? job.jobId = some row ∧ Snapshot job row

namespace Consistent

variable {s : System}

theorem init : Consistent (machine sha256).init where
  objectId k object h := by simp [machine, Tables.empty] at h
  jobId h := by simp [machine, Tables.empty] at h
  sound h := by simp [machine, Tables.empty] at h
  object h := by simp [machine, Tables.empty] at h
  attempts a ha := by simp [machine, Tables.empty] at ha
  attemptKeys := by simp [machine, Tables.empty]
  issued job hjob := by simp [machine] at hjob

theorem get?_of_mem (h : Consistent s) {row : JobRow} (hrow : row ∈ s.tables.jobs.values) :
    s.tables.jobs.get? row.jobId = some row := by
  obtain ⟨k, hk⟩ := Dict.mem_values_iff.1 hrow
  rwa [h.jobId hk]

theorem held (h : Consistent s) {ticket : Nat} {job : ObjectJob} {row : JobRow}
    {workerId : String} {now : Int} (hissued : s.issued[ticket]? = some job)
    (found : s.tables.jobs.get? job.jobId = some row) (holds : HoldsLease job row workerId now) :
    job = jobFromRow row := by
  obtain ⟨row', found', hsnapshot⟩ := h.issued job (List.mem_of_getElem? hissued)
  obtain rfl : row' = row := Option.some.inj (found'.symm.trans found)
  have hversion := holds.version
  rcases hsnapshot with hsame | hold
  · exact hsame
  · omega

theorem unrecorded (h : Consistent s) {row : JobRow}
    (found : s.tables.jobs.get? row.jobId = some row) (leased : row.state = .leased) :
    ∀ a ∈ s.tables.attempts, a.key ≠ (row.jobId, row.attempt) := by
  intro a ha hkey
  obtain ⟨hjob, hattempt⟩ := Prod.mk.inj hkey
  obtain ⟨row', found', hpast⟩ := h.attempts a ha
  rw [hjob] at found'
  obtain rfl : row' = row := Option.some.inj (found'.symm.trans found)
  have hlt := hpast.2 leased
  omega

theorem snapshot_move {job : ObjectJob} {row row' : JobRow} (h : Snapshot job row)
    (moves : row.Moves row') : Snapshot job row' := by
  have hversion := moves.version
  refine Or.inr ?_
  rcases h with rfl | hold
  · change row.version < row'.version
    omega
  · omega

theorem past_move {a : AttemptRow} {row row' : JobRow} (h : a.Past row) (moves : row.Moves row') :
    a.Past row' := by
  obtain ⟨hle, hlt⟩ := h
  cases moves with
  | leased claimable =>
    have hle' : a.attemptNumber < row.attempt + 1 := by omega
    exact ⟨Nat.le_of_lt hle', fun _ => hle'⟩
  | completed leased => exact ⟨hle, fun _ => hlt leased⟩
  | failed leased again => exact ⟨hle, fun _ => hlt leased⟩

theorem recorded_move {row row' : JobRow} (moves : row.Moves row')
    (left : row'.state ≠ .leased) : row'.attempt = row.attempt ∧ row.state = .leased := by
  cases moves with
  | leased claimable => exact absurd rfl left
  | completed leased => exact ⟨rfl, leased⟩
  | failed leased again => exact ⟨rfl, leased⟩

theorem insert (h : Consistent s) {row : JobRow} {t' : Tables} {given : List ObjectJob}
    (new : row.New) (unused : s.tables.jobs.get? row.jobId = none)
    (hjobs : t'.jobs = s.tables.jobs.set row.jobId row)
    (hattempts : t'.attempts = s.tables.attempts)
    (hkeyed : Keyed t'.objects)
    (hobjects : ∀ k, s.tables.objects.get? k ≠ none → t'.objects.get? k ≠ none)
    (hobject : t'.objects.get? row.objectId ≠ none)
    (hgiven : ∀ job ∈ given, job = jobFromRow row) :
    Consistent { tables := t', issued := s.issued ++ given } := by
  have hkeep : ∀ k other, s.tables.jobs.get? k = some other → t'.jobs.get? k = some other := by
    intro k other hother
    rw [hjobs, Dict.get?_set_of_ne, hother]
    rintro rfl
    simp [hother] at unused
  have hget : ∀ k other, t'.jobs.get? k = some other →
      (k = row.jobId ∧ other = row) ∨ s.tables.jobs.get? k = some other := by
    intro k other hother
    rw [hjobs, Dict.get?_set] at hother
    split at hother
    · next hk => exact Or.inl ⟨hk.symm, (Option.some.inj hother).symm⟩
    · exact Or.inr hother
  refine ⟨hkeyed, ?_, ?_, ?_, ?_, ?_, ?_⟩
  · intro k other hother
    rcases hget k other hother with ⟨rfl, rfl⟩ | hold
    · rfl
    · exact h.jobId hold
  · intro k other hother
    rcases hget k other hother with ⟨rfl, rfl⟩ | hold
    · exact new.sound
    · exact h.sound hold
  · intro k other hother
    rcases hget k other hother with ⟨rfl, rfl⟩ | hold
    · exact hobject
    · exact hobjects _ (h.object hold)
  · intro a ha
    simp only [hattempts] at ha
    obtain ⟨other, hother, hpast⟩ := h.attempts a ha
    exact ⟨other, hkeep _ _ hother, hpast⟩
  · simpa only [hattempts] using h.attemptKeys
  · intro job hjob
    rcases List.mem_append.1 hjob with hold | hnew
    · obtain ⟨other, hother, hsnapshot⟩ := h.issued job hold
      exact ⟨other, hkeep _ _ hother, hsnapshot⟩
    · have hrow := hgiven job hnew
      refine ⟨row, ?_, Or.inl hrow⟩
      rw [hrow, hjobs]
      exact Dict.get?_set_self ..

theorem move (h : Consistent s) {row row' : JobRow} {t' : Tables} (ended : Option AttemptRow)
    (found : s.tables.jobs.get? row.jobId = some row) (moves : row.Moves row')
    (hjobs : t'.jobs = s.tables.jobs.set row.jobId row')
    (hkeyed : Keyed t'.objects)
    (hobjects : ∀ k, s.tables.objects.get? k ≠ none → t'.objects.get? k ≠ none)
    (hattempts : t'.attempts = s.tables.attempts ++ ended.toList)
    (hended : ∀ a ∈ ended, a.key = (row.jobId, row.attempt) ∧ row'.state ≠ .leased) :
    Consistent { tables := t', issued := s.issued ++ [jobFromRow row'] } := by
  have hself : t'.jobs.get? row.jobId = some row' := by
    rw [hjobs]
    exact Dict.get?_set_self ..
  have hget : ∀ k other, t'.jobs.get? k = some other →
      (k = row.jobId ∧ other = row') ∨ s.tables.jobs.get? k = some other := by
    intro k other hother
    rw [hjobs, Dict.get?_set] at hother
    split at hother
    · next hk => exact Or.inl ⟨hk.symm, (Option.some.inj hother).symm⟩
    · exact Or.inr hother
  -- a row that was there is still there, or is the one written over
  have hkeep : ∀ {P : JobRow → Prop} k, (∀ other, P other → other.Moves row' → P row') →
      (∃ other, s.tables.jobs.get? k = some other ∧ P other) →
      ∃ other, t'.jobs.get? k = some other ∧ P other := by
    rintro P k hP ⟨other, hother, hp⟩
    by_cases hk : row.jobId = k
    · subst hk
      obtain rfl : other = row := Option.some.inj (hother.symm.trans found)
      exact ⟨row', hself, hP _ hp moves⟩
    · exact ⟨other, by rw [hjobs, Dict.get?_set_of_ne _ hk, hother], hp⟩
  refine ⟨hkeyed, ?_, ?_, ?_, ?_, ?_, ?_⟩
  · intro k other hother
    rcases hget k other hother with ⟨rfl, rfl⟩ | hold
    · exact moves.jobId
    · exact h.jobId hold
  · intro k other hother
    rcases hget k other hother with ⟨rfl, rfl⟩ | hold
    · exact moves.sound (h.sound found)
    · exact h.sound hold
  · intro k other hother
    rcases hget k other hother with ⟨rfl, rfl⟩ | hold
    · rw [moves.objectId]
      exact hobjects _ (h.object found)
    · exact hobjects _ (h.object hold)
  · intro a ha
    simp only [hattempts, List.mem_append, Option.mem_toList] at ha
    rcases ha with hold | hnew
    · exact hkeep a.jobId (fun _ => past_move) (h.attempts a hold)
    · obtain ⟨hkey, hleft⟩ := hended a hnew
      obtain ⟨hjob, hattempt⟩ := Prod.mk.inj hkey
      have hsame := (recorded_move moves hleft).1
      refine ⟨row', by rw [hjob, hself], ?_, fun hleased => absurd hleased hleft⟩
      omega
  · simp only [hattempts, List.map_append]
    cases ended with
    | none => simpa using h.attemptKeys
    | some a =>
      obtain ⟨hkey, hleft⟩ := hended a rfl
      have hnew := h.unrecorded found (recorded_move moves hleft).2
      simp only [Option.toList_some, List.map_cons, List.map_nil, List.nodup_append]
      refine ⟨h.attemptKeys, by simp, ?_⟩
      intro key hmem key' hmem'
      obtain ⟨other, hother, rfl⟩ := List.mem_map.1 hmem
      rw [List.mem_singleton.1 hmem', hkey]
      exact hnew other hother
  · intro job hjob
    rcases List.mem_append.1 hjob with hold | hnew
    · exact hkeep job.jobId (fun _ => snapshot_move) (h.issued job hold)
    · rw [List.mem_singleton.1 hnew]
      refine ⟨row', ?_, Or.inl rfl⟩
      change t'.jobs.get? row'.jobId = some row'
      rw [moves.jobId, hself]

end Consistent

/-! ## One step -/

theorem consistent_next {s : System} (h : Consistent s) (i : Input) :
    Consistent ((machine sha256).next s i) := by
  have heffect := effect_next sha256 s i
  have hissued := issued_next sha256 s i
  generalize (machine sha256).answer s i = o at heffect hissued
  generalize (machine sha256).next s i = s' at heffect hissued ⊢
  obtain ⟨t', issued'⟩ := s'
  simp only at heffect hissued
  subst hissued
  cases heffect with
  | unchanged refused answers =>
    refine ⟨h.objectId, h.jobId, h.sound, h.object, h.attempts, h.attemptKeys, ?_⟩
    intro job hjob
    rcases List.mem_append.1 hjob with hold | hnew
    · exact h.issued job hold
    · obtain ⟨-, row, hrow, rfl⟩ := answers.read job hnew
      exact ⟨row, h.get?_of_mem hrow, Or.inl rfl⟩
  | @registered submission object row _ other pending new hid unusedObject unused leaves =>
    refine h.insert new unused leaves.jobs leaves.attempts ?_ ?_ ?_ ?_
    · rw [leaves.objects]
      exact h.objectId.set object
    · intro k hk
      rw [leaves.objects]
      exact Dict.get?_set_ne_none hk _ _
    · rw [leaves.objects, hid, Dict.get?_set_self]
      simp
    · intro job hjob
      cases hjob
  | @claimed workerId now lease row _ transaction admitted leaves =>
    obtain ⟨hmem, claimable⟩ := candidate_mem admitted.chosen
    refine h.move none (h.get?_of_mem hmem) (.leased claimable) leaves.jobs ?_ ?_ ?_ ?_
    · rw [leaves.objects]
      exact h.objectId
    · intro k hk
      rwa [leaves.objects]
    · simpa using leaves.attempts
    · intro a ha
      cases ha
  | @completed ticket workerId stored now job row a _ transaction issued found holds object ends
      leaves =>
    obtain rfl := h.held issued found holds
    refine h.move (some a) found (.completed holds.state) leaves.jobs ?_ ?_ leaves.attempts ?_
    · rw [leaves.objects]
      exact h.objectId.update _ fun _ => rfl
    · intro k hk
      rw [leaves.objects]
      exact Dict.get?_update_ne_none hk _ _
    · intro b hb
      cases hb
      exact ⟨Prod.ext ends.1 ends.2, by simp [JobRow.complete]⟩
  | @failed ticket workerId error now retryAt job row a _ transaction issued admitted ends leaves =>
    obtain rfl := h.held issued admitted.found admitted.holds
    refine h.move (some a) admitted.found (.failed admitted.holds.state ?_) leaves.jobs ?_
      ?_ leaves.attempts ?_
    · intro hretry
      simp only [retries, Bool.and_eq_true, decide_eq_true_eq] at hretry
      exact hretry.2
    · rw [leaves.objects]
      split
      · exact h.objectId
      · exact h.objectId.update _ fun _ => rfl
    · intro k hk
      rw [leaves.objects]
      split
      · exact hk
      · exact Dict.get?_update_ne_none hk _ _
    · intro b hb
      cases hb
      refine ⟨Prod.ext ends.1 ends.2, ?_⟩
      cases hretry : retries (jobFromRow row) error <;> simp [JobRow.fail]
  | @reprocessed jobId key createdAt old _ transaction admitted leaves =>
    have hobject := h.object admitted.found
    refine h.insert (newJob_new admitted.attempts.1) admitted.unused leaves.jobs leaves.attempts
      ?_ ?_ ?_ ?_
    · rw [leaves.objects]
      exact h.objectId.update _ fun _ => rfl
    · intro k hk
      rw [leaves.objects]
      exact Dict.get?_update_ne_none hk _ _
    · rw [leaves.objects]
      exact Dict.get?_update_ne_none hobject _ _
    · intro job hjob
      exact List.mem_singleton.1 hjob

theorem consistent_run (sha256 : String → String) (is : List Input) : Consistent ((machine sha256).run is) :=
  (machine sha256).run_induction (I := Consistent) .init (fun _ i h => consistent_next h i) is

theorem jobs_next (sha256 : String → String) {s : System} (h : Consistent s) (i : Input) :
    ((machine sha256).next s i).tables.jobs = s.tables.jobs ∨
    (∃ row : JobRow, row.New ∧ s.tables.jobs.get? row.jobId = none ∧
      ((machine sha256).next s i).tables.jobs = s.tables.jobs.set row.jobId row) ∨
    ∃ row row' : JobRow, s.tables.jobs.get? row.jobId = some row ∧ row.Moves row' ∧
      ((machine sha256).next s i).tables.jobs = s.tables.jobs.set row.jobId row' := by
  have heffect := effect_next sha256 s i
  generalize (machine sha256).answer s i = o at heffect
  generalize ((machine sha256).next s i).tables = t' at heffect ⊢
  cases heffect with
  | unchanged refused answers => exact Or.inl rfl
  | registered other pending new hid unusedObject unused leaves =>
    exact Or.inr (Or.inl ⟨_, new, unused, leaves.jobs⟩)
  | claimed transaction admitted leaves =>
    obtain ⟨hmem, claimable⟩ := candidate_mem admitted.chosen
    exact Or.inr (Or.inr ⟨_, _, h.get?_of_mem hmem, .leased claimable, leaves.jobs⟩)
  | completed transaction issued found holds object ends leaves =>
    obtain rfl := h.held issued found holds
    exact Or.inr (Or.inr ⟨_, _, found, .completed holds.state, leaves.jobs⟩)
  | failed transaction issued admitted ends leaves =>
    obtain rfl := h.held issued admitted.found admitted.holds
    refine Or.inr (Or.inr ⟨_, _, admitted.found, .failed admitted.holds.state ?_, leaves.jobs⟩)
    intro hretry
    simp only [retries, Bool.and_eq_true, decide_eq_true_eq] at hretry
    exact hretry.2
  | reprocessed transaction admitted leaves =>
    exact Or.inr (Or.inl ⟨_, newJob_new admitted.attempts.1, admitted.unused, leaves.jobs⟩)

end DaonUser.ObjectQueue
