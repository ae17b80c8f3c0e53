import DaonUser.ObjectQueue.Attempts

/-!
# Object queue: the status of an object and the states of its jobs

The status of an object should be the one its jobs call for: completed once one of them is, failed when all
are given up, pending otherwise (`Agrees`). `reprocess` does not look for a completed sibling and `fail` not
for a live one, so the status can go back (`completed_object_reopened`, `status_iff`).
-/

namespace DaonUser.ObjectQueue

open Lib

variable {live completed : Prop} {jobs : Dict String JobRow} {objectId jobId : String} {p : JobState → Prop}
  {row : JobRow}

variable {sha256 : String → String}

/-! ## The property -/

/-- Some job of the object is in a state of the kind. -/
def HasJob (jobs : Dict String JobRow) (objectId : String) (p : JobState → Prop) : Prop :=
  ∃ row ∈ jobs.values, row.objectId = objectId ∧ p row.state

/-- A job that may still be tried. -/
def JobState.Open (state : JobState) : Prop :=
  state = .pending ∨ state = .leased ∨ state = .retryWait

/-- The status of every object is the one that its jobs call for. -/
structure Agrees (t : Tables) : Prop where
  completed : ∀ object ∈ t.objects.values,
    object.status = .completed ↔ HasJob t.jobs object.objectId (· = .completed)
  pending : ∀ object ∈ t.objects.values,
    object.status = .pending ↔
      ¬HasJob t.jobs object.objectId (· = .completed) ∧
        HasJob t.jobs object.objectId JobState.Open
  failed : ∀ object ∈ t.objects.values,
    object.status = .failed ↔
      ∀ row ∈ t.jobs.values, row.objectId = object.objectId → row.state = .deadLetter

/-- In every state of the run the objects agree with their jobs, and a completed object stays so. -/
structure StatusHolds (sha256 : String → String) (is : List Input) : Prop where
  agrees : (machine sha256).AllStates (fun s => Agrees s.tables) (machine sha256).init is
  final : ∀ pre post rest, is = pre ++ post ++ rest → ∀ objectId object,
    ((machine sha256).run pre).tables.objects.get? objectId = some object →
    object.status = .completed →
    ∃ object', ((machine sha256).run (pre ++ post)).tables.objects.get? objectId = some object' ∧
      object'.status = .completed

/-- The transaction does not reprocess a job of an object with a completed job, and does not give
up a job of an object with another job that is not given up. -/
def KeepsStatus (sha256 : String → String) (s : System) (i : Input) : Prop :=
  match i.transaction with
  | .reprocess jobId key createdAt => ∀ old,
      ReprocessAdmitted sha256 i.env i.context jobId key createdAt s.tables old →
      ∀ row ∈ s.tables.jobs.values, row.objectId = old.objectId → row.state ≠ .completed
  | .fail ticket workerId error now _ => ∀ job row, s.issued[ticket]? = some job →
      FailAdmitted i.env job workerId now s.tables row → retries job error = false →
      ∀ other ∈ s.tables.jobs.values, other.objectId = row.objectId →
        other.jobId ≠ row.jobId → other.state = .deadLetter
  | _ => True

/-! ## What the jobs call for -/

/-- The status that the jobs call for, by whether one is completed and whether one is open. -/
def Fits (status : ObjectStatus) (completed live : Prop) : Prop :=
  (status = .completed ↔ completed) ∧ (status = .pending ↔ ¬completed ∧ live) ∧
    (status = .failed ↔ ¬completed ∧ ¬live)

theorem fits_completed :
    Fits .completed completed live ↔ completed := by
  simp only [Fits]
  tauto

theorem fits_pending :
    Fits .pending completed live ↔ ¬completed ∧ live := by
  simp only [Fits, reduceCtorEq]
  tauto

theorem fits_failed :
    Fits .failed completed live ↔ ¬completed ∧ ¬live := by
  simp only [Fits, reduceCtorEq]
  tauto

theorem JobState.not_deadLetter {state : JobState} :
    state ≠ .deadLetter ↔ state = .completed ∨ state.Open := by
  cases state <;> simp [JobState.Open]

theorem all_deadLetter_iff :
    (∀ row ∈ jobs.values, row.objectId = objectId → row.state = .deadLetter) ↔
      ¬HasJob jobs objectId (· = .completed) ∧ ¬HasJob jobs objectId JobState.Open := by
  constructor
  · intro h
    refine ⟨fun ⟨row, hrow, hid, hstate⟩ => ?_, fun ⟨row, hrow, hid, hstate⟩ => ?_⟩
    · have hdead := h row hrow hid
      simp [hdead] at hstate
    · have hdead := h row hrow hid
      simp [hdead, JobState.Open] at hstate
  · rintro ⟨hcompleted, hlive⟩ row hrow hid
    by_contra hdead
    rcases JobState.not_deadLetter.1 hdead with hstate | hstate
    · exact hcompleted ⟨row, hrow, hid, hstate⟩
    · exact hlive ⟨row, hrow, hid, hstate⟩

/-- The property of one object. -/
def FitsJobs (jobs : Dict String JobRow) (objectId : String) (status : ObjectStatus) : Prop :=
  Fits status (HasJob jobs objectId (· = .completed)) (HasJob jobs objectId JobState.Open)

theorem agrees_iff {t : Tables} (h : Keyed t.objects) :
    Agrees t ↔ ∀ k object, t.objects.get? k = some object → FitsJobs t.jobs k object.status := by
  constructor
  · intro hagrees k object hobject
    have hmem := Dict.mem_values_of_get? hobject
    have hid := h k object hobject
    subst hid
    refine ⟨hagrees.completed object hmem, hagrees.pending object hmem, ?_⟩
    rw [hagrees.failed object hmem, all_deadLetter_iff]
  · intro hfits
    have hobject : ∀ object ∈ t.objects.values,
        FitsJobs t.jobs object.objectId object.status := by
      intro object hmem
      obtain ⟨k, hk⟩ := Dict.mem_values_iff.1 hmem
      rw [h k object hk]
      exact hfits k object hk
    refine ⟨fun object hmem => (hobject object hmem).1,
      fun object hmem => (hobject object hmem).2.1, fun object hmem => ?_⟩
    rw [all_deadLetter_iff]
    exact (hobject object hmem).2.2

theorem hasJob_iff :
    HasJob jobs objectId p ↔
      ∃ k row, jobs.get? k = some row ∧ row.objectId = objectId ∧ p row.state := by
  constructor
  · rintro ⟨row, hrow, hid, hp⟩
    obtain ⟨k, hk⟩ := Dict.mem_values_iff.1 hrow
    exact ⟨k, row, hk, hid, hp⟩
  · rintro ⟨k, row, hk, hid, hp⟩
    exact ⟨row, Dict.mem_values_of_get? hk, hid, hp⟩

theorem hasJob_set :
    HasJob (jobs.set jobId row) objectId p ↔
      (row.objectId = objectId ∧ p row.state) ∨ ∃ k other, k ≠ jobId ∧
        jobs.get? k = some other ∧ other.objectId = objectId ∧ p other.state := by
  constructor
  · rintro ⟨other, hother, hid, hp⟩
    rcases Dict.mem_values_set.1 hother with rfl | ⟨k, hk, hget⟩
    · exact Or.inl ⟨hid, hp⟩
    · exact Or.inr ⟨k, other, hk, hget, hid, hp⟩
  · intro h
    rcases h with ⟨hid, hp⟩ | ⟨k, other, hk, hget, hid, hp⟩
    · exact ⟨row, Dict.mem_values_set.2 (Or.inl rfl), hid, hp⟩
    · exact ⟨other, Dict.mem_values_set.2 (Or.inr ⟨k, hk, hget⟩), hid, hp⟩

theorem hasJob_set_other (hrow : row.objectId ≠ objectId)
    (hold : ∀ old, jobs.get? jobId = some old → old.objectId ≠ objectId) :
    HasJob (jobs.set jobId row) objectId p ↔ HasJob jobs objectId p := by
  rw [hasJob_set, hasJob_iff]
  constructor
  · intro h
    rcases h with ⟨hid, -⟩ | ⟨k, other, -, hget, hid, hp⟩
    · exact absurd hid hrow
    · exact ⟨k, other, hget, hid, hp⟩
  · rintro ⟨k, other, hget, hid, hp⟩
    refine Or.inr ⟨k, other, ?_, hget, hid, hp⟩
    rintro rfl
    exact hold other hget hid

theorem hasJob_set_same {row' : JobRow} (found : jobs.get? jobId = some row)
    (hid : row'.objectId = row.objectId) (hp : p row'.state ↔ p row.state) :
    HasJob (jobs.set jobId row') objectId p ↔ HasJob jobs objectId p := by
  rw [hasJob_set, hasJob_iff]
  constructor
  · intro h
    rcases h with ⟨hobject, hstate⟩ | ⟨k, other, -, hget, hother⟩
    · exact ⟨jobId, row, found, hid ▸ hobject, hp.1 hstate⟩
    · exact ⟨k, other, hget, hother⟩
  · rintro ⟨k, other, hget, hobject, hstate⟩
    by_cases hk : k = jobId
    · subst hk
      obtain rfl : row = other := Option.some.inj (found.symm.trans hget)
      exact Or.inl ⟨hid.trans hobject, hp.2 hstate⟩
    · exact Or.inr ⟨k, other, hk, hget, hobject, hstate⟩

theorem fitsJobs_set_open (row' : JobRow) {status : ObjectStatus} (found : jobs.get? jobId = some row)
    (hid : row'.objectId = row.objectId) (hrow : row.state.Open) (hrow' : row'.state.Open) :
    FitsJobs (jobs.set jobId row') objectId status ↔ FitsJobs jobs objectId status := by
  have hnot : ∀ state : JobState, state.Open → state ≠ .completed := by
    intro state
    cases state <;> simp [JobState.Open]
  have hcompleted : HasJob (jobs.set jobId row') objectId (· = .completed) ↔
      HasJob jobs objectId (· = .completed) :=
    hasJob_set_same found hid (iff_of_false (hnot _ hrow') (hnot _ hrow))
  have hlive : HasJob (jobs.set jobId row') objectId JobState.Open ↔
      HasJob jobs objectId JobState.Open :=
    hasJob_set_same found hid (iff_of_true hrow' hrow)
  simp only [FitsJobs, hcompleted, hlive]

/-- After a job of one object was written and that object given a status, the objects agree with
their jobs exactly when that one does. -/
theorem fits_write {t t' : Tables} (objectId : String) (status : ObjectStatus)
    (hs : ∀ k object, t.objects.get? k = some object → FitsJobs t.jobs k object.status)
    (hjobs : t'.jobs = t.jobs.set jobId row) (hrow : row.objectId = objectId)
    (hold : ∀ old, t.jobs.get? jobId = some old → old.objectId = objectId)
    (hobject : (t'.objects.get? objectId).map ObjectRow.status = some status)
    (hobjects : ∀ k, k ≠ objectId → t'.objects.get? k = t.objects.get? k) :
    (∀ k object, t'.objects.get? k = some object → FitsJobs t'.jobs k object.status) ↔
      FitsJobs t'.jobs objectId status := by
  obtain ⟨object, hget, hstatus⟩ := Option.map_eq_some_iff.1 hobject
  constructor
  · intro h
    rw [← hstatus]
    exact h objectId object hget
  · intro h k other hother
    by_cases hk : k = objectId
    · subst hk
      obtain rfl : object = other := Option.some.inj (hget.symm.trans hother)
      rwa [hstatus]
    · rw [hobjects k hk] at hother
      have hne : objectId ≠ k := Ne.symm hk
      have hsame : ∀ p, HasJob t'.jobs k p ↔ HasJob t.jobs k p := by
        intro p
        rw [hjobs]
        apply hasJob_set_other
        · rwa [hrow]
        · intro old hget'
          rwa [hold old hget']
      simp only [FitsJobs, hsame]
      exact hs k other hother

theorem status_update {objects : Dict String ObjectRow}
    {f : ObjectRow → ObjectRow} {status : ObjectStatus} (h : objects.get? objectId ≠ none) (hf : ∀ o, (f o).status = status) :
    ((objects.update objectId f).get? objectId).map ObjectRow.status = some status := by
  obtain ⟨object, hobject⟩ := Option.ne_none_iff_exists'.1 h
  rw [Dict.get?_update, if_pos rfl, hobject]
  simp [hf]

theorem JobRow.Claimable.state_open {now : Int} (h : row.Claimable now) :
    row.state.Open := by
  rcases h with ⟨h | h, -⟩ | ⟨h, -⟩ <;> simp [h, JobState.Open]

theorem keepsStatus_of_not_admitted {s : System} {i : Input} (h : ¬Admitted sha256 s i) :
    KeepsStatus sha256 s i := by
  unfold KeepsStatus
  split
  · next transaction =>
    intro old admitted
    simp only [Admitted, transaction] at h
    exact absurd ⟨old, admitted⟩ h
  · next transaction =>
    intro job row issued admitted
    simp only [Admitted, transaction] at h
    exact absurd ⟨job, row, issued, admitted⟩ h
  · trivial

/-- A transaction keeps the objects in agreement with their jobs exactly when it meets the
condition. -/
theorem agrees_next {s : System} (h : Consistent s) (i : Input) (hs : Agrees s.tables) :
    Agrees ((machine sha256).next s i).tables ↔ KeepsStatus sha256 s i := by
  rw [agrees_iff (consistent_next h i).objectId]
  rw [agrees_iff h.objectId] at hs
  have heffect := effect_next sha256 s i
  generalize (machine sha256).answer s i = o at heffect
  generalize ((machine sha256).next s i).tables = t' at heffect ⊢
  cases heffect with
  | unchanged refused answers =>
    exact iff_of_true hs (keepsStatus_of_not_admitted refused)
  | @registered submission object row _ other pending new hid unusedObject unused leaves =>
    refine iff_of_true ?_ (keepsStatus_of_not_admitted other)
    · have hnone : ∀ k other, s.tables.jobs.get? k = some other →
          other.objectId ≠ object.objectId := by
        intro k other hget hother
        exact h.object hget (by rw [hother, unusedObject])
      rw [fits_write object.objectId .pending hs leaves.jobs hid]
      · refine fits_pending.2 ⟨fun hjob => ?_, ?_⟩
        · rw [leaves.jobs, hasJob_set] at hjob
          rcases hjob with ⟨-, hstate⟩ | ⟨k, other, -, hget, hother, -⟩
          · simp [new.state] at hstate
          · exact hnone k other hget hother
        · rw [leaves.jobs, hasJob_set]
          exact Or.inl ⟨hid, Or.inl new.state⟩
      · intro old hold
        simp [unused] at hold
      · rw [leaves.objects, Dict.get?_set_self, Option.map_some, pending]
      · intro k hk
        rw [leaves.objects, Dict.get?_set_of_ne _ (Ne.symm hk)]
  | @claimed workerId now lease row _ transaction admitted leaves =>
    obtain ⟨hmem, claimable⟩ := candidate_mem admitted.chosen
    refine iff_of_true ?_ (by simp only [KeepsStatus, transaction])
    intro k object hobject
    rw [leaves.objects] at hobject
    rw [leaves.jobs]
    have hrow' : (row.lease workerId (now + lease)).state.Open := Or.inr (Or.inl rfl)
    exact (fitsJobs_set_open (row.lease workerId (now + lease)) (h.get?_of_mem hmem) rfl claimable.state_open hrow').2
      (hs k object hobject)
  | @completed ticket workerId stored now job row a _ transaction issued found holds object ends
      leaves =>
    obtain rfl := h.held issued found holds
    refine iff_of_true ?_ (by simp only [KeepsStatus, transaction])
    rw [fits_write row.objectId .completed hs leaves.jobs rfl]
    · refine fits_completed.2 (hasJob_iff.2 ⟨row.jobId, row.complete now, ?_, rfl, rfl⟩)
      rw [leaves.jobs, Dict.get?_set_self]
    · intro old hold
      rw [Option.some.inj (found.symm.trans hold)]
    · rw [leaves.objects]
      exact status_update object fun _ => rfl
    · intro k hk
      rw [leaves.objects]
      exact Dict.get?_update_of_ne _ (Ne.symm hk) _
  | @failed ticket workerId error now retryAt job row a _ transaction issued admitted ends leaves =>
    obtain rfl := h.held issued admitted.found admitted.holds
    have found : s.tables.jobs.get? row.jobId = some row := admitted.found
    cases hretry : retries (jobFromRow row) error with
    | true =>
      simp only [hretry, if_true] at leaves
      refine iff_of_true ?_ ?_
      · intro k object hobject
        rw [leaves.objects] at hobject
        rw [leaves.jobs]
        have hrow : row.state.Open := Or.inr (Or.inl admitted.holds.state)
        have hrow' : (row.fail true error now retryAt).state.Open := Or.inr (Or.inr rfl)
        exact (fitsJobs_set_open (row.fail true error now retryAt) found rfl hrow hrow').2 (hs k object hobject)
      · simp only [KeepsStatus, transaction]
        intro job' row' issued' admitted' hretry'
        obtain rfl : job' = jobFromRow row := Option.some.inj (issued'.symm.trans issued)
        simp [hretry] at hretry'
    | false =>
      simp only [hretry, Bool.false_eq_true, if_false] at leaves
      rw [fits_write row.objectId .failed hs leaves.jobs rfl]
      · rw [FitsJobs, fits_failed, ← all_deadLetter_iff, leaves.jobs]
        simp only [KeepsStatus, transaction]
        constructor
        · intro hdead job' row' issued' admitted' _ other hother hid hne
          obtain rfl : job' = jobFromRow row := Option.some.inj (issued'.symm.trans issued)
          obtain rfl : row' = row := Option.some.inj (admitted'.found.symm.trans found)
          refine hdead other (Dict.mem_values_set.2 (Or.inr ⟨other.jobId, hne, ?_⟩)) hid
          exact h.get?_of_mem hother
        · intro hcondition other hother hid
          rcases Dict.mem_values_set.1 hother with rfl | ⟨k, hk, hget⟩
          · simp [JobRow.fail]
          · refine hcondition _ row issued admitted hretry other (Dict.mem_values_of_get? hget)
              hid ?_
            rwa [h.jobId hget]
      · intro old hold
        rw [Option.some.inj (found.symm.trans hold)]
      · rw [leaves.objects]
        exact status_update (h.object found) fun _ => rfl
      · intro k hk
        rw [leaves.objects]
        exact Dict.get?_update_of_ne _ (Ne.symm hk) _
  | @reprocessed jobId key createdAt old _ transaction admitted leaves =>
    rw [fits_write old.objectId .pending hs leaves.jobs rfl]
    · rw [FitsJobs, fits_pending, leaves.jobs]
      simp only [KeepsStatus, transaction]
      constructor
      · rintro ⟨hcompleted, _⟩ old' admitted' row hrow hid hstate
        obtain rfl : old' = old := Option.some.inj (admitted'.found.symm.trans admitted.found)
        refine hcompleted (hasJob_set.2 (Or.inr ⟨row.jobId, row, ?_, h.get?_of_mem hrow, hid,
          hstate⟩))
        intro hsame
        have hget := h.get?_of_mem hrow
        rw [hsame, admitted.unused] at hget
        cases hget
      · intro hcondition
        refine ⟨fun hcompleted => ?_, hasJob_set.2 (Or.inl ⟨rfl, Or.inl rfl⟩)⟩
        rcases hasJob_set.1 hcompleted with ⟨-, hstate⟩ | ⟨k, row, -, hget, hid, hstate⟩
        · simp [reprocessJob, newJob] at hstate
        · exact hcondition old admitted row (Dict.mem_values_of_get? hget) hid hstate
    · intro row hrow
      simp [admitted.unused] at hrow
    · rw [leaves.objects]
      exact status_update (h.object admitted.found) fun _ => rfl
    · intro k hk
      rw [leaves.objects]
      exact Dict.get?_update_of_ne _ (Ne.symm hk) _

theorem agrees_run (is : List Input) :
    (machine sha256).AllStates (fun s => Agrees s.tables) (machine sha256).init is ↔
      (machine sha256).AllSteps (KeepsStatus sha256) (machine sha256).init is := by
  refine (machine sha256).allStates_iff_allSteps (I := Consistent)
    (fun s i h => consistent_next h i) (fun s i h hs => agrees_next h i hs) .init ?_
  have hinit : Consistent (machine sha256).init := .init
  refine (agrees_iff hinit.objectId).2 fun k object hobject => ?_
  simp [machine, Tables.empty] at hobject

/-- The status of every object is the one its jobs call for, and completed objects stay so, exactly
in the runs whose transactions all meet the condition. -/
theorem status_iff (sha256 : String → String) (is : List Input) :
    StatusHolds sha256 is ↔
      (machine sha256).AllSteps (KeepsStatus sha256) (machine sha256).init is := by
  rw [← agrees_run]
  refine ⟨StatusHolds.agrees, fun hagrees => ⟨hagrees, ?_⟩⟩
  rintro pre post rest rfl objectId object hobject hstatus
  have hpre : Agrees ((machine sha256).run pre).tables := by
    rw [List.append_assoc] at hagrees
    exact hagrees.runFrom
  have hpost : Agrees ((machine sha256).run (pre ++ post)).tables := hagrees.runFrom
  have hconsistent := consistent_run sha256 (pre ++ post)
  have hid := (consistent_run sha256 pre).objectId _ _ hobject
  obtain ⟨row, hrow, hrowId, hcompleted⟩ :=
    (hpre.completed object (Dict.mem_values_of_get? hobject)).1 hstatus
  -- the completed job is still there, so its object is, and it is completed
  have hlater := final_run pre post ((consistent_run sha256 pre).get?_of_mem hrow)
    (Or.inl hcompleted)
  obtain ⟨object', hobject'⟩ := Option.ne_none_iff_exists'.1 (hconsistent.object hlater)
  have hid' := hconsistent.objectId _ _ hobject'
  refine ⟨object', by rw [← hid, ← hrowId, hobject'], ?_⟩
  refine (hpost.completed object' (Dict.mem_values_of_get? hobject')).2 ?_
  exact ⟨row, Dict.mem_values_of_get? hlater, hid'.symm, hcompleted⟩

namespace Sample

def giveUp (ticket : Nat) : Input :=
  call "object.write" (.fail ticket "worker" { code := "OBJECT_CHECKSUM_MISMATCH" } 0 0)
    isSafeId_write

def complete (ticket : Nat) : Input :=
  call "object.write" (.complete ticket "worker"
    { key := "tenant/workspace/source/00000000000000000000000000000000", digestSha256 := digest,
      byteSize := 1, contentType := "text/plain", etag := "etag", versionId := none } 0)
    isSafeId_write

def reprocess (key : String) : Input :=
  call "queue.reprocess" (.reprocess "job-00000000000000000000000000000000" key 0)

def secondTry : List Input :=
  [register, claim "worker" 0, giveUp 0, reprocess "key-2", claim "worker" 0, complete 3]

end Sample

/-- An object whose second job has completed goes back to pending when its first one, which was
given up, is reprocessed under another key. -/
theorem completed_object_reopened : ¬∀ is, StatusHolds Sample.sha256Hex is := by
  intro h
  have hcompleted : (((machine Sample.sha256Hex).run Sample.secondTry).tables.objects.get?
      Sample.objectId).map ObjectRow.status = some .completed := by decide
  have hpending : (((machine Sample.sha256Hex).run
      (Sample.secondTry ++ [Sample.reprocess "key-3"])).tables.objects.get?
      Sample.objectId).map ObjectRow.status = some .pending := by decide
  obtain ⟨object, hobject, hstatus⟩ := Option.map_eq_some_iff.1 hcompleted
  obtain ⟨object', hobject', hstatus'⟩ := (h (Sample.secondTry ++ [Sample.reprocess "key-3"])).final
    Sample.secondTry [Sample.reprocess "key-3"] [] rfl Sample.objectId object hobject hstatus
  rw [hobject', Option.map_some, hstatus'] at hpending
  cases hpending

end DaonUser.ObjectQueue
