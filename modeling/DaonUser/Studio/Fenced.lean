import DaonUser.Lib.Call
import DaonUser.Studio.Progress

/-!
# The workers of the queue of studio generations

Workers come back late, with jobs that others have claimed since. In every run such a job has no effect,
and a job that has been finished stays as it is (`job_fenced`).
-/

namespace DaonUser.Studio

open Lib

variable {s : System} {env : Env} {i : Input} {jobs' : List JobRow} {row : JobRow}

def Transaction.ticket : Transaction → Option Nat
  | .start ticket => some ticket
  | .retry ticket _ _ => some ticket
  | .finish ticket _ _ _ _ => some ticket
  | _ => none

def JobRow.Terminal (row : JobRow) : Prop := row.state ∈ JobState.terminal

/-- What a transaction leaves of the finished jobs, returns, and makes of the job that it names. -/
structure Effect (s : System) (transaction : Transaction) (reply : Reply) (jobs' : List JobRow) : Prop where
  kept : ∀ row ∈ s.jobs, row.Terminal → row ∈ jobs'
  issued : ∀ job ∈ reply.issued, ∃ row ∈ s.jobs, row.key = job.key ∧ row.version < job.version ∧ ¬row.Terminal
  acted : ∀ ticket job, transaction.ticket = some ticket → s.job ticket = .ok job →
    reply ≠ .retried false → ∃ row ∈ s.jobs, row.key = job.key ∧ row.version = job.version ∧ ¬row.Terminal

theorem JobRow.InWork.not_terminal (h : row.InWork) : ¬row.Terminal := by
  unfold Terminal
  rcases h with h | h <;> rw [h] <;> decide

theorem JobRow.Claimable.not_terminal {now : Int} (h : row.Claimable now) : ¬row.Terminal := by
  rcases h with ⟨h, -⟩ | ⟨h, -⟩
  · rw [Terminal, h]
    decide
  · exact h.not_terminal

theorem mem_updated_of_not {p : JobRow → Bool} {set : JobRow → JobRow} {jobs : List JobRow}
    (hrow : row ∈ jobs) (hp : ¬p row = true) : row ∈ updated p set jobs :=
  mem_updated.2 ⟨row, hrow, if_neg hp⟩

theorem Effect.of_updateJob {transaction : Transaction} {reply : Reply} {ticket : Nat}
    {job : StudioGenerationJob} {p : JobRow → Bool} {set : JobRow → JobRow}
    (hupdate : updateJob job p set s.jobs = .ok jobs') (hticket : transaction.ticket = some ticket)
    (hjob : s.job ticket = .ok job) (hreply : reply.issued = []) (hp : ∀ row, p row = true → row.InWork) :
    Effect s transaction reply jobs' := by
  have hrows := updateJob_eq_ok hupdate
  subst hrows
  refine ⟨fun row hrow hend => mem_updated_of_not hrow fun hmatches => ?_, by rw [hreply]; nofun, ?_⟩
  · exact (hp row (Bool.and_eq_true _ _ ▸ hmatches).2).not_terminal hend
  · intro ticket' job' hticket' hjob' _
    cases hticket.symm.trans hticket'
    cases hjob.symm.trans hjob'
    unfold updateJob at hupdate
    dsimp only at hupdate
    split at hupdate
    · next hany =>
      obtain ⟨row, hrow, hmatches⟩ := List.any_eq_true.1 hany
      simp only [Bool.and_eq_true, decide_eq_true_eq] at hmatches
      exact ⟨row, hrow, hmatches.1.1, hmatches.1.2, (hp row hmatches.2).not_terminal⟩
    · cases hupdate

theorem effect_execute {transaction : Transaction} {reply : Reply} (hs : Consistent s)
    (h : execute s env transaction = .ok (reply, jobs')) : Effect s transaction reply jobs' := by
  cases transaction with
  | enqueue new =>
    obtain ⟨jobs, henqueue, heq⟩ := map_eq_ok h
    cases heq
    unfold enqueue at henqueue
    split at henqueue <;> cases henqueue
    exact ⟨fun _ hrow _ => List.mem_append_left _ hrow, nofun, nofun⟩
  | claim workerId leaseSeconds =>
    obtain ⟨⟨claimed, jobs⟩, hclaim, heq⟩ := map_eq_ok h
    cases heq
    unfold claim at hclaim
    split at hclaim
    · cases hclaim
    cases hcandidate : candidate env s.jobs with
    | none =>
      rw [hcandidate] at hclaim
      cases hclaim
      exact ⟨fun _ hrow _ => hrow, nofun, nofun⟩
    | some row =>
      rw [hcandidate] at hclaim
      dsimp only at hclaim
      obtain ⟨hmem, hclaimable, -⟩ := mem_candidate hcandidate
      split at hclaim <;> cases hclaim
      · refine ⟨fun other hother hend => mem_updated_of_not hother fun hkey => ?_, ?_, nofun⟩
        · obtain rfl := List.inj_on_of_nodup_map hs.keyed hother hmem (by simpa using hkey)
          exact hclaimable.not_terminal hend
        · intro job hjob
          rw [List.mem_singleton.1 hjob]
          exact ⟨row, hmem, rfl, Nat.lt_succ_self _, hclaimable.not_terminal⟩
      · exact ⟨fun _ hrow _ => hrow, nofun, nofun⟩
  | start ticket =>
    obtain ⟨job, hjob, hbody⟩ := Call.bind_eq_ok.1 h
    obtain ⟨jobs, hstart, heq⟩ := map_eq_ok hbody
    cases heq
    exact .of_updateJob (checkScope_bind hstart) rfl hjob rfl fun row hp => .inl (by simpa using hp)
  | retry ticket errorCode delaySeconds =>
    obtain ⟨job, hjob, hbody⟩ := Call.bind_eq_ok.1 h
    obtain ⟨⟨queued, jobs⟩, hretry, heq⟩ := map_eq_ok hbody
    cases heq
    unfold retry at hretry
    split at hretry
    · cases hretry
      exact ⟨fun _ hrow _ => hrow, nofun, fun _ _ _ _ h => absurd rfl h⟩
    obtain ⟨rows, hupdate, heq⟩ := Call.bind_eq_ok.1 (checkScope_bind hretry)
    cases heq
    exact .of_updateJob hupdate rfl hjob rfl fun row hp => by simpa using hp
  | finish ticket state errorCode studioOutputId outputVersionId =>
    obtain ⟨job, hjob, hbody⟩ := Call.bind_eq_ok.1 h
    obtain ⟨jobs, hfinish, heq⟩ := map_eq_ok hbody
    cases heq
    unfold finish at hfinish
    split at hfinish
    · cases hfinish
    exact .of_updateJob (checkScope_bind hfinish) rfl hjob rfl fun row hp => by simpa using hp

theorem effect_next (hs : Consistent s) (i : Input) :
    ((∃ e, queue.answer s i = .error e) ∧ queue.next s i = s) ∨
    ∃ reply, queue.answer s i = .ok reply ∧ Effect s i.transaction reply (queue.next s i).jobs ∧
      (queue.next s i).issued = s.issued ++ reply.issued := by
  unfold Machine.answer Machine.next
  simp only [queue, transact]
  cases hexecute : execute s i.env i.transaction with
  | error e => exact .inl ⟨⟨e, rfl⟩, rfl⟩
  | ok executed =>
    cases i.env.failure with
    | some e => exact .inl ⟨⟨e, rfl⟩, rfl⟩
    | none => exact .inr ⟨executed.1, rfl, effect_execute hs hexecute, rfl⟩

/-- Every claim of a job returns a newer version of it. -/
structure Fenced (s : System) : Prop extends Consistent s where
  ordered : s.issued.Pairwise fun a b => a.key = b.key → a.version < b.version

theorem Fenced.next (h : Fenced s) (i : Input) : Fenced (queue.next s i) := by
  refine ⟨h.toConsistent.next i, ?_⟩
  rcases effect_next h.toConsistent i with ⟨-, hsame⟩ | ⟨reply, -, heffect, hissued⟩
  · rw [hsame]
    exact h.ordered
  · rw [hissued]
    have hone : reply.issued.Pairwise fun a b => a.key = b.key → a.version < b.version := by
      cases reply with
      | claimed job => cases job <;> simp [Reply.issued]
      | _ => exact .nil
    refine List.pairwise_append.2 ⟨h.ordered, hone, fun a ha b hb hkey => ?_⟩
    obtain ⟨row, hrow, hsame, hlt, -⟩ := heffect.issued b hb
    exact (h.issued a ha row hrow (hsame.trans hkey.symm)).1.trans_lt hlt

theorem fenced_run (is : List Input) : Fenced (queue.run is) :=
  queue.run_induction ⟨consistent_of_reachable queue.reachable_init, .nil⟩ (fun _ i hs => hs.next i) is

/-- A worker starts, queues again or finishes this job. -/
def Acts (s : System) (i : Input) (ticket : Nat) (job : StudioGenerationJob) : Prop :=
  i.transaction.ticket = some ticket ∧ s.issued[ticket]? = some job ∧
    ∃ reply, queue.answer s i = .ok reply ∧ reply ≠ .retried false

theorem effect_of_answer {reply : Reply} (hs : Consistent s) (h : queue.answer s i = .ok reply) :
    Effect s i.transaction reply (queue.next s i).jobs := by
  rcases effect_next hs i with ⟨⟨e, he⟩, -⟩ | ⟨reply', hreply, heffect, -⟩
  · cases h.symm.trans he
  · cases h.symm.trans hreply
    exact heffect

theorem Acts.exists_row {ticket : Nat} {job : StudioGenerationJob} (h : Acts s i ticket job)
    (hs : Consistent s) :
    ∃ row ∈ s.jobs, row.key = job.key ∧ row.version = job.version ∧ ¬row.Terminal := by
  obtain ⟨hticket, hjob, reply, hanswer, hreply⟩ := h
  exact (effect_of_answer hs hanswer).acted ticket job hticket (by rw [System.job, hjob]) hreply

/-- A worker acts on a job only while nobody has claimed it since, and a job that has ended stays as it is:
nobody acts on it and no claim returns it. -/
theorem job_fenced (is js : List Input) (i : Input) :
    (∀ ticket job, Acts (queue.run is) i ticket job → ∀ later other, ticket < later →
      (queue.run is).issued[later]? = some other → other.key ≠ job.key) ∧
    ∀ row ∈ (queue.run is).jobs, row.Terminal → row ∈ (queue.run (is ++ js)).jobs ∧
      (∀ ticket job, Acts (queue.run (is ++ js)) i ticket job → job.key ≠ row.key) ∧
      ∀ job, queue.answer (queue.run (is ++ js)) i = .ok (.claimed (some job)) → job.key ≠ row.key := by
  constructor
  · intro ticket job hacts later other hlt hother hkey
    have hs := fenced_run is
    obtain ⟨row, hrow, hsame, hversion, -⟩ := hacts.exists_row hs.toConsistent
    obtain ⟨hticket, hjob⟩ := List.getElem?_eq_some_iff.1 hacts.2.1
    obtain ⟨hlater, hother'⟩ := List.getElem?_eq_some_iff.1 hother
    have hnewer := List.pairwise_iff_getElem.1 hs.ordered ticket later hticket hlater hlt
    rw [hjob, hother'] at hnewer
    have hle := (hs.issued other (List.mem_of_getElem? hother) row hrow (hsame.trans hkey.symm)).1
    have := hnewer hkey.symm
    omega
  · intro row hrow hend
    have hkept : Consistent (queue.run (is ++ js)) ∧ row ∈ (queue.run (is ++ js)).jobs := by
      rw [Machine.run_append]
      refine queue.runFrom_induction (I := fun s => Consistent s ∧ row ∈ s.jobs) ?_
        ⟨(fenced_run is).toConsistent, hrow⟩ js
      rintro s i ⟨hs, hrow⟩
      refine ⟨hs.next i, ?_⟩
      rcases effect_next hs i with ⟨-, hsame⟩ | ⟨reply, -, heffect, -⟩
      · rwa [hsame]
      · exact heffect.kept row hrow hend
    obtain ⟨hs, hrow⟩ := hkept
    have hother (other : JobRow) (hother : other ∈ (queue.run (is ++ js)).jobs) (hlive : ¬other.Terminal) :
        other.key ≠ row.key :=
      fun hkey => hlive (List.inj_on_of_nodup_map hs.keyed hother hrow hkey ▸ hend)
    refine ⟨hrow, fun ticket job hacts => ?_, fun job hanswer => ?_⟩
    · obtain ⟨other, hmem, hkey, -, hlive⟩ := hacts.exists_row hs
      exact hkey ▸ hother other hmem hlive
    · obtain ⟨other, hmem, hkey, -, hlive⟩ := (effect_of_answer hs hanswer).issued job (by simp [Reply.issued])
      exact hkey ▸ hother other hmem hlive

end DaonUser.Studio
