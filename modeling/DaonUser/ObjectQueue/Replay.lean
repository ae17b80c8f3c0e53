import DaonUser.ObjectQueue.Invariant
import DaonUser.ObjectQueue.Submit
import DaonUser.Lib.Numeral
import Mathlib.Data.List.Pairwise

/-!
# Object queue: repeated registrations

An object row keeps who registered it, under which idempotency key and with which fingerprint. `Ledger` is
that part of the rows of a scope: a transaction leaves it as it is, or files one registration of a key that
was not there (`ledger_next`).
-/

namespace DaonUser.ObjectQueue

open Lib

variable {row : JobRow} {q : Request} {r : Registration} {s : System} {i : Input} {v : ObjectSubmission}

variable {sha256 : String → String} {digest : List UInt8 → String}

/-! ## The ledger -/

structure Origin where
  objectId : String
  actorId : String
  idempotencyKey : String
  fingerprint : String
  deriving DecidableEq

structure First where
  objectId : String
  actorId : String
  idempotencyKey : String
  deriving DecidableEq

def Origin.first (o : Origin) : First := ⟨o.objectId, o.actorId, o.idempotencyKey⟩

def ObjectRow.origin (row : ObjectRow) : Origin :=
  ⟨row.objectId, row.createdBy, row.idempotencyKey, row.requestFingerprint⟩

def JobRow.first (row : JobRow) : Option First :=
  if row.retryOfJobId = none then some ⟨row.objectId, row.createdBy, row.deduplicationKey⟩ else none

@[ext] structure Ledger where
  origins : String → Option Origin
  firsts : String → Option First

def Tables.ledger (t : Tables) : Ledger where
  origins k := (t.objects.get? k).map ObjectRow.origin
  firsts k := (t.jobs.get? k).bind JobRow.first

namespace Ledger

def file (l : Ledger) (o : Origin) : Ledger where
  origins := Function.update l.origins o.objectId (some o)
  firsts := Function.update l.firsts ("job-" ++ o.objectId) (some o.first)

/-- Neither the object nor the key of the registration is in the ledger. -/
structure New (l : Ledger) (o : Origin) : Prop where
  object : l.origins o.objectId = none
  key : ∀ {k other}, l.origins k = some other →
    ¬(other.actorId = o.actorId ∧ other.idempotencyKey = o.idempotencyKey)

/-- One object a key, and one first job an object. -/
structure Sound (l : Ledger) : Prop where
  objectId : ∀ {k o}, l.origins k = some o → o.objectId = k
  alone : ∀ {k k' o o'}, l.origins k = some o → l.origins k' = some o' →
    o.actorId = o'.actorId → o.idempotencyKey = o'.idempotencyKey → k = k'
  first : ∀ {k o}, l.origins k = some o → l.firsts ("job-" ++ k) = some o.first
  filed : ∀ {k f}, l.firsts k = some f → k = "job-" ++ f.objectId ∧ l.origins f.objectId ≠ none

variable {l : Ledger} {o : Origin}

theorem file_origins {k : String} {other : Origin} (h : (l.file o).origins k = some other) :
    (k = o.objectId ∧ other = o) ∨ l.origins k = some other := by
  simp only [file, Function.update_apply] at h
  split at h
  · next hk => exact Or.inl ⟨hk, (Option.some.inj h).symm⟩
  · exact Or.inr h

theorem New.kept (h : l.New o) {k : String} {other : Origin} (hother : l.origins k = some other) :
    (l.file o).origins k = some other := by
  have hk : k ≠ o.objectId := by
    rintro rfl
    simp [h.object] at hother
  simpa only [file, Function.update_of_ne hk] using hother

theorem Sound.file (h : l.Sound) (hnew : l.New o) : (l.file o).Sound where
  objectId hother := by
    rcases file_origins hother with ⟨rfl, rfl⟩ | hold
    · rfl
    · exact h.objectId hold
  alone hother hother' hactor hkey := by
    rcases file_origins hother with ⟨rfl, rfl⟩ | hold
    · rcases file_origins hother' with ⟨rfl, rfl⟩ | hold'
      · rfl
      · exact absurd ⟨hactor.symm, hkey.symm⟩ (hnew.key hold')
    · rcases file_origins hother' with ⟨rfl, rfl⟩ | hold'
      · exact absurd ⟨hactor, hkey⟩ (hnew.key hold)
      · exact h.alone hold hold' hactor hkey
  first {k other} hother := by
    rcases file_origins hother with ⟨rfl, rfl⟩ | hold
    · exact Function.update_self ..
    · have hk : "job-" ++ k ≠ "job-" ++ o.objectId := by
        intro hk
        obtain rfl := (String.append_right_inj _).1 hk
        simp [hnew.object] at hold
      simp only [Ledger.file, Function.update_of_ne hk]
      exact h.first hold
  filed {k f} hf := by
    simp only [Ledger.file, Function.update_apply] at hf
    split at hf
    · next hk =>
      obtain rfl := Option.some.inj hf
      exact ⟨hk, by simp [Ledger.file, Origin.first]⟩
    · obtain ⟨hk, hne⟩ := h.filed hf
      obtain ⟨other, hother⟩ := Option.ne_none_iff_exists'.1 hne
      exact ⟨hk, by rw [hnew.kept hother]; simp⟩

theorem sound_empty : Tables.empty.ledger.Sound where
  objectId h := by simp [Tables.ledger, Tables.empty] at h
  alone h := by simp [Tables.ledger, Tables.empty] at h
  first h := by simp [Tables.ledger, Tables.empty] at h
  filed h := by simp [Tables.ledger, Tables.empty] at h

end Ledger

theorem origins_update {objects : Dict String ObjectRow} {objectId : String}
    {f : ObjectRow → ObjectRow} (hf : ∀ row, (f row).origin = row.origin) (k : String) :
    ((objects.update objectId f).get? k).map ObjectRow.origin =
      (objects.get? k).map ObjectRow.origin := by
  rw [Dict.get?_update]
  split
  · rw [Option.map_map]
    exact congrArg (fun g => Option.map g (objects.get? k)) (funext hf)
  · rfl

theorem firsts_set {jobs : Dict String JobRow} {jobId : String}
    (h : row.first = (jobs.get? jobId).bind JobRow.first) (k : String) :
    ((jobs.set jobId row).get? k).bind JobRow.first = (jobs.get? k).bind JobRow.first := by
  rw [Dict.get?_set]
  split
  · next hk =>
    subst hk
    exact h
  · rfl

theorem JobRow.Moves.first {row' : JobRow} (h : row.Moves row') : row'.first = row.first := by
  cases h <;> rfl

theorem ledger_moved {t t' : Tables} {row' : JobRow}
    (found : t.jobs.get? row.jobId = some row) (moves : row.Moves row')
    (hjobs : t'.jobs = t.jobs.set row.jobId row')
    (hobjects : ∀ k, (t'.objects.get? k).map ObjectRow.origin =
      (t.objects.get? k).map ObjectRow.origin) : t'.ledger = t.ledger := by
  refine Ledger.ext (funext hobjects) (funext fun k => ?_)
  simp only [Tables.ledger, hjobs]
  refine firsts_set ?_ k
  rw [found, moves.first]
  rfl

/-! ## Requests -/

structure Request where
  area : String
  digestSha256 : String
  byteSize : Int
  contentType : String
  deriving DecidableEq

def Request.text (q : Request) : String :=
  q.area ++ "|" ++ q.digestSha256 ++ "|" ++ toString q.byteSize ++ "|" ++ q.contentType

namespace Request

/-- The checks of the key policy and of the metadata on what the fingerprint is made of. -/
structure WellFormed (q : Request) : Prop where
  area : q.area ∈ ["source", "output"]
  digest : isDigest q.digestSha256 = true
  byteSize : 0 ≤ q.byteSize

theorem WellFormed.area_chars (h : q.WellFormed) :
    ∀ c ∈ q.area.toList, decide (c ≠ '|') = true := by
  have harea := h.area
  simp only [List.mem_cons, List.not_mem_nil, or_false] at harea
  rcases harea with harea | harea
  · rw [harea]
    exact List.all_eq_true.1 (by decide)
  · rw [harea]
    exact List.all_eq_true.1 (by decide)

theorem WellFormed.digest_chars (h : q.WellFormed) :
    ∀ c ∈ q.digestSha256.toList, decide (c ≠ '|') = true := by
  intro c hc
  have hdigest := h.digest
  simp only [isDigest, Bool.and_eq_true, List.all_eq_true] at hdigest
  have hmem := hdigest.1 c hc
  simp only [decide_eq_true_eq]
  rintro rfl
  revert hmem
  decide

theorem WellFormed.byteSize_toList (h : q.WellFormed) :
    (toString q.byteSize).toList = Nat.toDigits 10 q.byteSize.toNat := by
  obtain ⟨n, hn⟩ := Int.eq_ofNat_of_zero_le h.byteSize
  rw [hn, Int.toNat_natCast]
  change (Nat.repr n).toList = Nat.toDigits 10 n
  rw [Nat.repr, String.toList_ofList]

theorem toDigits_chars (n : Nat) : ∀ c ∈ Nat.toDigits 10 n, decide (c ≠ '|') = true := by
  intro c hc
  have hdigit := isDigit_toDigits c hc
  simp only [decide_eq_true_eq]
  rintro rfl
  revert hdigit
  decide

theorem text_injective {q' : Request} (h : q.WellFormed) (h' : q'.WellFormed)
    (htext : q.text = q'.text) : q = q' := by
  have hlist := congrArg String.toList htext
  have hbar : ∀ (cs : List Char), ∀ c ∈ ('|' :: cs).head?, decide (c ≠ '|') = false := by
    intro cs c hc
    obtain rfl := Option.some.inj hc
    decide
  simp only [text, String.toList_append, List.append_assoc, h.byteSize_toList,
    h'.byteSize_toList] at hlist
  change _ ++ '|' :: (_ ++ '|' :: (_ ++ '|' :: _)) = _ ++ '|' :: (_ ++ '|' :: (_ ++ '|' :: _))
    at hlist
  obtain ⟨harea, hrest⟩ := append_cancel h.area_chars h'.area_chars (hbar _) (hbar _) hlist
  obtain ⟨hdigest, hrest⟩ := append_cancel h.digest_chars h'.digest_chars (hbar _) (hbar _)
    (List.cons.inj hrest).2
  obtain ⟨hsize, hrest⟩ := append_cancel (toDigits_chars _) (toDigits_chars _) (hbar _) (hbar _)
    (List.cons.inj hrest).2
  have hnat : q.byteSize.toNat = q'.byteSize.toNat := by
    have hvalue := congrArg (Nat.ofDigitChars 10 · 0) hsize
    simpa only [Nat.ofDigitChars_ten_toDigits] using hvalue
  have hint : q.byteSize = q'.byteSize := by
    rw [← Int.toNat_of_nonneg h.byteSize, hnat, Int.toNat_of_nonneg h'.byteSize]
  cases q
  cases q'
  simp only [mk.injEq]
  exact ⟨String.toList_injective harea, String.toList_injective hdigest, hint,
    String.toList_injective (List.cons.inj hrest).2⟩

end Request

namespace Registration

def request (r : Registration) : Request :=
  ⟨r.area, r.staged.digestSha256, r.staged.byteSize, r.staged.contentType⟩

def scope (r : Registration) : Scope := (r.context.tenantId, r.context.workspaceId)

/-- The calls under one key of one actor repeat each other. -/
def Repeats (r r' : Registration) : Prop :=
  r.scope = r'.scope ∧ r.context.actorId = r'.context.actorId ∧ r.idempotencyKey = r'.idempotencyKey

instance (r r' : Registration) : Decidable (r.Repeats r') := inferInstanceAs (Decidable (_ ∧ _))

def originOf (sha256 : String → String) (r : Registration) (objectId : String) : Origin :=
  ⟨objectId, r.context.actorId, r.idempotencyKey, sha256 r.request.text⟩

theorem Checked.wellFormed (h : r.Checked) : r.request.WellFormed where
  area := by
    have hkey := h.finalKey
    simp only [isKeyOf, Bool.and_eq_true] at hkey
    exact List.contains_iff_mem.1 hkey.1.1.2
  digest := h.metadata.1
  byteSize := h.bounds.1

end Registration

def submissionOf (objectId : String) (replayed : Bool) : ObjectSubmission :=
  ⟨objectId, "job-" ++ objectId, "outbox-" ++ objectId, replayed⟩

/-- The row was registered by the actor and under the key of the call. -/
def Registration.Owns (r : Registration) (row : ObjectRow) : Prop :=
  row.createdBy = r.context.actorId ∧ row.idempotencyKey = r.idempotencyKey

inductive Registers (sha256 : String → String) (r : Registration) (t : Tables) :
    Except ObjectQueueError ObjectSubmission → Tables → Prop where
  | unchecked (checked : ¬r.Checked) (e : ObjectQueueError) : Registers sha256 r t (.error e) t
  | replayed {row : ObjectRow} (checked : r.Checked) (found : row ∈ t.objects.values)
      (owns : r.Owns row) (same : row.requestFingerprint = sha256 r.request.text) :
      Registers sha256 r t (.ok (submissionOf row.objectId true)) t
  | reused {row : ObjectRow} (checked : r.Checked) (found : row ∈ t.objects.values)
      (owns : r.Owns row) (other : row.requestFingerprint ≠ sha256 r.request.text) :
      Registers sha256 r t (.error { code := "IDEMPOTENCY_KEY_REUSED" }) t
  | refused (checked : r.Checked) (new : ∀ row ∈ t.objects.values, ¬r.Owns row)
      (e : ObjectQueueError) : Registers sha256 r t (.error e) t
  | filed {object : ObjectRow} {job : JobRow} {t' : Tables} (checked : r.Checked)
      (new : ∀ row ∈ t.objects.values, ¬r.Owns row)
      (unused : t.objects.get? r.objectId = none)
      (origin : object.origin = r.originOf sha256 r.objectId)
      (first : job.first = some (r.originOf sha256 r.objectId).first)
      (leaves : Leaves t' (t.objects.set r.objectId object)
        (t.jobs.set ("job-" ++ r.objectId) job) t.attempts) :
      Registers sha256 r t (.ok (submissionOf r.objectId false)) t'

theorem registers (r : Registration) (env : Env) (createdAt : Int) (t : Tables) :
    Call.Post (registerObjectJob sha256 env r.context r.objectId r.area r.staged r.finalKey
      r.idempotencyKey r.traceId r.maxAttempts createdAt r.forceRollback) t
      (Registers sha256 r t) := by
  refine Call.post_ensure (fun h => .unchecked (fun hr => h hr.capability) _) fun capability => ?_
  refine Call.post_ensure (fun h => .unchecked (fun hr => h hr.stagingKey) _) fun stagingKey => ?_
  refine Call.post_ensure (fun h => .unchecked (fun hr => h hr.finalKey) _) fun finalKey => ?_
  refine Call.post_ensure (fun h => .unchecked (fun hr => h hr.key) _) fun key => ?_
  refine Call.post_ensure (fun h => .unchecked (fun hr => h hr.trace) _) fun trace => ?_
  refine Call.post_ensure (fun h => .unchecked (fun hr => h hr.metadata) _) fun metadata => ?_
  refine Call.post_ensure (fun h => .unchecked (fun hr => h hr.bounds) _) fun bounds => ?_
  have checked : r.Checked := ⟨capability, stagingKey, finalKey, key, trace, metadata, bounds⟩
  refine Call.post_atomically (Call.post_get ?_)
  cases hfound : t.objects.values.find? fun row =>
    row.createdBy = r.context.actorId ∧ row.idempotencyKey = r.idempotencyKey with
  | some row =>
    have found := List.mem_of_find?_eq_some hfound
    have owns : r.Owns row := by simpa [Registration.Owns] using List.find?_some hfound
    exact Call.post_ensure (fun other => .reused checked found owns other) fun same =>
      .replayed checked found owns same
  | none =>
    have new : ∀ row ∈ t.objects.values, ¬r.Owns row := by
      intro row hrow howns
      have hnot := List.find?_eq_none.1 hfound row hrow
      simp only [decide_eq_true_eq] at hnot
      exact hnot howns
    refine post_raiseAny (fun _ _ => .refused checked new _) fun _ => ?_
    refine post_insert (fun _ _ => .refused checked new _) fun hobject => ?_
    refine post_insert (fun _ _ => .refused checked new _) fun _ => ?_
    refine post_insert (fun _ _ => .refused checked new _) fun _ => ?_
    refine post_insert (fun _ _ => .refused checked new _) fun _ => ?_
    refine Call.post_ensure (fun _ => .refused checked new _) fun _ => ?_
    refine post_raiseAny (fun _ _ => .refused checked new _) fun _ => ?_
    exact .filed checked new hobject.1 rfl rfl ⟨rfl, rfl, rfl⟩

/-! ## One transaction -/

theorem registration_next (sha256 : String → String) (r : Registration) (env : Env) (createdAt : Int) (s : System) :
    ∃ o, (machine sha256).answer s (r.input env createdAt) = o.map Reply.submission ∧
      Registers sha256 r s.tables o ((machine sha256).next s (r.input env createdAt)).tables := by
  have h : Call.Post (execute sha256 s.issued (r.input env createdAt)) s.tables fun o t' =>
      ∃ o', o = o'.map Reply.submission ∧ Registers sha256 r s.tables o' t' :=
    Call.post_map ((registers r env createdAt s.tables).mono fun o t' h => ⟨o, rfl, h⟩)
  exact h

theorem registration_of_answer
    (h : (machine sha256).answer s i = .ok (.submission v)) : ∃ r, i.registration = some r := by
  have hmap : ∀ {α : Type} (f : α → Reply) (x : Statement α), (∀ a v, f a ≠ .submission v) →
      ∀ v, ((f <$> x) s.tables).1 ≠ .ok (.submission v) := by
    intro α f x hf
    have hpost : Call.Post (f <$> x) s.tables fun o _ => ∀ v, o ≠ Except.ok (Reply.submission v) := by
      apply Call.post_map
      change ∀ v, (x s.tables).1.map f ≠ .ok (.submission v)
      intro v
      cases (x s.tables).1 with
      | error e =>
        intro h
        cases h
      | ok a =>
        intro h
        exact hf a v (Except.ok.inj h)
    exact hpost
  obtain ⟨context, env, transaction⟩ := i
  cases transaction with
  | registerObjectJob => exact ⟨_, rfl⟩
  | claim workerId now lease =>
    refine absurd h (hmap _ _ (fun a v => ?_) v)
    cases a with
    | none => simp
    | some job => simp
  | getJob jobId => exact absurd h (hmap _ _ (by simp) v)
  | complete ticket workerId stored now =>
    change (execute sha256 s.issued _ s.tables).1 = _ at h
    cases hjob : s.issued[ticket]? with
    | none =>
      simp only [execute, hjob] at h
      cases h
    | some job =>
      simp only [execute, hjob] at h
      exact absurd h (hmap _ _ (by simp) v)
  | fail ticket workerId error now retryAt =>
    change (execute sha256 s.issued _ s.tables).1 = _ at h
    cases hjob : s.issued[ticket]? with
    | none =>
      simp only [execute, hjob] at h
      cases h
    | some job =>
      simp only [execute, hjob] at h
      exact absurd h (hmap _ _ (by simp) v)
  | reprocess jobId key createdAt => exact absurd h (hmap _ _ (by simp) v)

theorem ledger_unregistered (h : Consistent s) (hi : i.registration = none) :
    ((machine sha256).next s i).tables.ledger = s.tables.ledger := by
  have heffect := effect_next sha256 s i
  generalize ho : (machine sha256).answer s i = o at heffect
  generalize ((machine sha256).next s i).tables = t' at heffect ⊢
  cases heffect with
  | unchanged refused answers => rfl
  | registered =>
    obtain ⟨r, hr⟩ := registration_of_answer ho
    simp [hi] at hr
  | claimed transaction admitted leaves =>
    obtain ⟨hmem, claimable⟩ := candidate_mem admitted.chosen
    refine ledger_moved (h.get?_of_mem hmem) (.leased claimable) leaves.jobs fun k => ?_
    rw [leaves.objects]
  | completed transaction issued found holds object ends leaves =>
    obtain rfl := h.held issued found holds
    refine ledger_moved found (.completed holds.state) leaves.jobs fun k => ?_
    rw [leaves.objects]
    exact origins_update (f := fun record => record.complete _ _) (fun _ => rfl) k
  | @failed ticket workerId error now retryAt job row a _ transaction issued admitted ends leaves =>
    obtain rfl := h.held issued admitted.found admitted.holds
    have again : retries (jobFromRow row) error = true → row.attempt < row.maxAttempts := by
      intro hretry
      simp only [retries, Bool.and_eq_true, decide_eq_true_eq] at hretry
      exact hretry.2
    refine ledger_moved admitted.found (.failed admitted.holds.state again) leaves.jobs fun k => ?_
    rw [leaves.objects]
    split
    · rfl
    · exact origins_update (f := ObjectRow.fail) (fun _ => rfl) k
  | reprocessed transaction admitted leaves =>
    refine Ledger.ext (funext fun k => ?_) (funext fun k => ?_)
    · simp only [Tables.ledger, leaves.objects]
      exact origins_update (f := ObjectRow.reopen) (fun _ => rfl) k
    · simp only [Tables.ledger, leaves.jobs]
      refine firsts_set ?_ k
      rw [admitted.unused]
      rfl

theorem ledger_filed {t t' : Tables} {object : ObjectRow} {job : JobRow}
    (new : ∀ row ∈ t.objects.values, ¬r.Owns row)
    (unused : t.objects.get? r.objectId = none)
    (origin : object.origin = r.originOf sha256 r.objectId)
    (first : job.first = some (r.originOf sha256 r.objectId).first)
    (leaves : Leaves t' (t.objects.set r.objectId object)
      (t.jobs.set ("job-" ++ r.objectId) job) t.attempts) :
    t.ledger.New (r.originOf sha256 r.objectId) ∧
      t'.ledger = t.ledger.file (r.originOf sha256 r.objectId) := by
  constructor
  · constructor
    · change (t.objects.get? r.objectId).map _ = none
      rw [unused, Option.map_none]
    · intro k other hother howns
      obtain ⟨row, hrow, rfl⟩ := Option.map_eq_some_iff.1 hother
      exact new row (Dict.mem_values_of_get? hrow) howns
  · refine Ledger.ext (funext fun k => ?_) (funext fun k => ?_)
    · simp only [Tables.ledger, leaves.objects, Ledger.file, Function.update_apply, Dict.get?_set,
        Registration.originOf, eq_comm (a := k)]
      split
      · rw [Option.map_some, origin]
        rfl
      · rfl
    · simp only [Tables.ledger, leaves.jobs, Ledger.file, Function.update_apply, Dict.get?_set,
        Registration.originOf, eq_comm (a := k)]
      split
      · rw [Option.bind_some, first]
        rfl
      · rfl

theorem ledger_next (sha256 : String → String) (h : Consistent s) (i : Input) :
    ((machine sha256).next s i).tables.ledger = s.tables.ledger ∨
    ∃ r, i.registration = some r ∧ s.tables.ledger.New (r.originOf sha256 r.objectId) ∧
      ((machine sha256).next s i).tables.ledger =
        s.tables.ledger.file (r.originOf sha256 r.objectId) := by
  cases hi : i.registration with
  | none => exact Or.inl (ledger_unregistered h hi)
  | some r =>
    obtain ⟨createdAt, hinput⟩ := input_of_registration hi
    obtain ⟨o, -, hregisters⟩ := registration_next sha256 r i.env createdAt s
    rw [← hinput] at hregisters
    generalize ((machine sha256).next s i).tables = t' at hregisters ⊢
    cases hregisters with
    | unchecked checked e => exact Or.inl rfl
    | replayed checked found owns same => exact Or.inl rfl
    | reused checked found owns other => exact Or.inl rfl
    | refused checked new e => exact Or.inl rfl
    | filed checked new unused origin first leaves =>
      exact Or.inr ⟨r, rfl, ledger_filed new unused origin first leaves⟩

theorem sound_next (h : Consistent s) (hl : s.tables.ledger.Sound) (i : Input) :
    ((machine sha256).next s i).tables.ledger.Sound := by
  rcases ledger_next sha256 h i with hsame | ⟨r, -, hnew, hfiled⟩
  · rwa [hsame]
  · rw [hfiled]
    exact hl.file hnew

theorem origins_next (h : Consistent s) (i : Input) {k : String} {o : Origin}
    (ho : s.tables.ledger.origins k = some o) :
    ((machine sha256).next s i).tables.ledger.origins k = some o := by
  rcases ledger_next sha256 h i with hsame | ⟨r, -, hnew, hfiled⟩
  · rwa [hsame]
  · rw [hfiled]
    exact hnew.kept ho

theorem accepted_next (h : Consistent s) (hi : i.registration = some r)
    (hv : (machine sha256).answer s i = .ok (.submission v)) :
    r.Checked ∧ v = submissionOf v.objectId v.replayed ∧
      ((machine sha256).next s i).tables.ledger.origins v.objectId =
        some (r.originOf sha256 v.objectId) := by
  obtain ⟨createdAt, hinput⟩ := input_of_registration hi
  obtain ⟨o, ho, hregisters⟩ := registration_next sha256 r i.env createdAt s
  rw [← hinput, hv] at ho
  rw [← hinput] at hregisters
  generalize ((machine sha256).next s i).tables = t' at hregisters ⊢
  cases hregisters with
  | unchecked checked e => cases ho
  | reused checked found owns other => cases ho
  | refused checked new e => cases ho
  | @replayed row checked found owns same =>
    obtain rfl : v = submissionOf row.objectId true := Reply.submission.inj (Except.ok.inj ho)
    obtain ⟨k, hk⟩ := Dict.mem_values_iff.1 found
    obtain rfl := h.objectId k row hk
    refine ⟨checked, rfl, ?_⟩
    change (s.tables.objects.get? row.objectId).map _ = _
    rw [hk, Option.map_some, ObjectRow.origin, owns.1, owns.2, same]
    rfl
  | filed checked new unused origin first leaves =>
    obtain rfl : v = submissionOf r.objectId false := Reply.submission.inj (Except.ok.inj ho)
    refine ⟨checked, rfl, ?_⟩
    rw [(ledger_filed new unused origin first leaves).2]
    exact Function.update_self ..

/-- A call that repeats a registration in the ledger changes no row. It is answered with the object
of that registration when the fingerprints agree, and refused when they do not. -/
theorem repeated_next (hl : s.tables.ledger.Sound) {r' : Registration} {objectId : String}
    (hfiled : s.tables.ledger.origins objectId = some (r.originOf sha256 objectId))
    (hi : i.registration = some r') (hsame : r.Repeats r') :
    ((machine sha256).next s i).tables = s.tables ∧
    (r'.Checked → sha256 r.request.text = sha256 r'.request.text →
      (machine sha256).answer s i = .ok (.submission (submissionOf objectId true))) ∧
    ((r'.Checked → sha256 r.request.text ≠ sha256 r'.request.text) →
      ∃ e, (machine sha256).answer s i = .error e) := by
  obtain ⟨createdAt, hinput⟩ := input_of_registration hi
  obtain ⟨o, ho, hregisters⟩ := registration_next sha256 r' i.env createdAt s
  rw [← hinput] at ho hregisters
  rw [ho]
  generalize ((machine sha256).next s i).tables = t' at hregisters ⊢
  obtain ⟨filed, hget, horigin⟩ := Option.map_eq_some_iff.1 hfiled
  have hactor : filed.createdBy = r.context.actorId := congrArg Origin.actorId horigin
  have hkey : filed.idempotencyKey = r.idempotencyKey := congrArg Origin.idempotencyKey horigin
  have hprint : filed.requestFingerprint = sha256 r.request.text :=
    congrArg Origin.fingerprint horigin
  have howns : r'.Owns filed := ⟨hactor.trans hsame.2.1, hkey.trans hsame.2.2⟩
  -- a row of the actor and the key is the row of the registration
  have halone : ∀ row ∈ s.tables.objects.values, r'.Owns row →
      row.objectId = objectId ∧ row.requestFingerprint = sha256 r.request.text := by
    intro row hrow howns'
    obtain ⟨k, hk⟩ := Dict.mem_values_iff.1 hrow
    have hrow' : s.tables.ledger.origins k = some row.origin := by
      change (s.tables.objects.get? k).map _ = _
      rw [hk, Option.map_some]
    have hk' : k = objectId := by
      refine hl.alone hrow' hfiled ?_ ?_
      · exact howns'.1.trans hsame.2.1.symm
      · exact howns'.2.trans hsame.2.2.symm
    subst hk'
    obtain rfl : filed = row := Option.some.inj (hget.symm.trans hk)
    exact ⟨hl.objectId hrow', hprint⟩
  cases hregisters with
  | unchecked checked e =>
    exact ⟨rfl, fun hchecked => absurd hchecked checked, fun _ => ⟨e, rfl⟩⟩
  | replayed checked found owns same =>
    obtain ⟨hid, hrow⟩ := halone _ found owns
    refine ⟨rfl, fun _ _ => ?_, fun hother => absurd (hrow.symm.trans same) (hother checked)⟩
    rw [hid]
    rfl
  | reused checked found owns other =>
    obtain ⟨-, hrow⟩ := halone _ found owns
    exact ⟨rfl, fun _ heq => absurd (hrow.trans heq) other, fun _ => ⟨_, rfl⟩⟩
  | refused checked new e => exact absurd howns (new filed (Dict.mem_values_of_get? hget))
  | filed checked new => exact absurd howns (new filed (Dict.mem_values_of_get? hget))

/-! ## Runs of submissions -/

def registrationOf (e : Event Submissions Command (Option Outcome)) : Option Registration :=
  (e.pre.transaction e.input).bind Input.registration

def Accepted (e : Event Submissions Command (Option Outcome)) (r : Registration)
    (v : ObjectSubmission) : Prop :=
  registrationOf e = some r ∧ e.output = some (.ok (.submission v))

/-- The step leaves every row of every scope as it is. -/
def RowsKept (e : Event Submissions Command (Option Outcome)) : Prop :=
  ∀ scope, (e.post.queues scope).tables = (e.pre.queues scope).tables

def CollisionFree (sha256 : String → String)
    (history : List (Event Submissions Command (Option Outcome))) : Prop :=
  ∀ e ∈ history, ∀ e' ∈ history, ∀ r ∈ registrationOf e, ∀ r' ∈ registrationOf e',
    r.Checked → r'.Checked → sha256 r.request.text = sha256 r'.request.text → r.request.text = r'.request.text

instance (sha256 : String → String)
    (history : List (Event Submissions Command (Option Outcome))) :
    Decidable (CollisionFree sha256 history) :=
  inferInstanceAs (Decidable (∀ e ∈ history, _))

/-- A later call under the key of an accepted one changes no row: with its request it is answered
with the ids of the accepted one, with another it is refused. -/
def Replayed (e e' : Event Submissions Command (Option Outcome)) : Prop :=
  ∀ r v r', Accepted e r v → registrationOf e' = some r' → r.Repeats r' →
    RowsKept e' ∧
    (r'.Checked → r'.request = r.request →
      e'.output = some (.ok (.submission { v with replayed := true }))) ∧
    (r'.request ≠ r.request → ∃ error, e'.output = some (.error error))

/-- Two accepted calls that name one object are calls under one key with one request. -/
def Unshared (e e' : Event Submissions Command (Option Outcome)) : Prop :=
  ∀ r v r' v', Accepted e r v → Accepted e' r' v' → r.scope = r'.scope →
    v.objectId = v'.objectId → r.Repeats r' ∧ r.request = r'.request

/-- One object for each actor and key, and one first job for each object, kept under its actor and
key. -/
structure OneEach (t : Tables) : Prop where
  objects : ∀ a ∈ t.objects.values, ∀ b ∈ t.objects.values, a.createdBy = b.createdBy →
    a.idempotencyKey = b.idempotencyKey → a = b
  firstJobs : ∀ a ∈ t.jobs.values, ∀ b ∈ t.jobs.values, a.retryOfJobId = none →
    b.retryOfJobId = none → a.createdBy = b.createdBy → a.deduplicationKey = b.deduplicationKey →
    a = b
  jobOf : ∀ object ∈ t.objects.values, ∃ job ∈ t.jobs.values, job.retryOfJobId = none ∧
    job.objectId = object.objectId ∧ job.createdBy = object.createdBy ∧
    job.deduplicationKey = object.idempotencyKey

structure Idempotent (sha256 : String → String) (digest : List UInt8 → String)
    (is : List Command) : Prop where
  oneEach : ∀ scope, OneEach (((submissions sha256 digest).run is).queues scope).tables
  replayed : ((submissions sha256 digest).events is).Pairwise Replayed
  unshared : ((submissions sha256 digest).events is).Pairwise Unshared

/-! ## The invariant of a run -/

/-- The rows of every scope are consistent, and so is its ledger. -/
structure Kept (queues : Scope → System) : Prop where
  consistent : ∀ scope, Consistent (queues scope)
  sound : ∀ scope, (queues scope).tables.ledger.Sound

theorem kept_init : Kept (submissions sha256 digest).init.queues where
  consistent _ := @Consistent.init sha256
  sound _ := Ledger.sound_empty

theorem database_next (queues : Scope → System) (i : Input) (scope : Scope) :
    (database sha256).next queues i scope =
      if scope = i.scope then (machine sha256).next (queues i.scope) i else queues scope := by
  change Function.update queues i.scope _ scope = _
  rw [Function.update_apply]

theorem kept_transaction {queues : Scope → System} (h : Kept queues) (i : Input) :
    Kept ((database sha256).next queues i) := by
  constructor
  · intro scope
    rw [database_next]
    split
    · exact consistent_next (h.consistent _) i
    · exact h.consistent scope
  · intro scope
    rw [database_next]
    split
    · exact sound_next (h.consistent _) (h.sound _) i
    · exact h.sound scope

theorem kept_next {s : Submissions} (h : Kept s.queues) (c : Command) :
    Kept ((submissions sha256 digest).next s c).queues := by
  rw [queues_next]
  cases s.transaction c with
  | none => exact h
  | some i => exact kept_transaction h i

def Left (sha256 : String → String) (e : Event Submissions Command (Option Outcome))
    (s : Submissions) : Prop :=
  ∀ r v, Accepted e r v → r.Checked ∧ v = submissionOf v.objectId v.replayed ∧
    (s.queues r.scope).tables.ledger.origins v.objectId = some (r.originOf sha256 v.objectId)

theorem scope_of_registration (h : i.registration = some r) :
    i.scope = r.scope := by
  obtain ⟨createdAt, hinput⟩ := input_of_registration h
  rw [hinput]
  rfl

theorem left_event {s : Submissions} (h : Kept s.queues) (c : Command) :
    Left sha256 ((submissions sha256 digest).event s c) ((submissions sha256 digest).next s c) := by
  rintro r v ⟨hr, hv⟩
  obtain ⟨i, hi, hreg⟩ := Option.bind_eq_some_iff.1 hr
  have hscope := scope_of_registration hreg
  have hanswer := @answer_of_transaction sha256 digest _ _ _ hi
  have hv' : (machine sha256).answer (s.queues i.scope) i = .ok (.submission v) :=
    Option.some.inj (hanswer.symm.trans hv)
  rw [queues_next]
  simp only [Machine.event] at hi
  simp only [hi, database_next, hscope, if_true]
  rw [hscope] at hv'
  exact accepted_next (h.consistent _) hreg hv'

theorem left_next {e : Event Submissions Command (Option Outcome)} {s : Submissions}
    (h : Kept s.queues) (c : Command) (hleft : Left sha256 e s) :
    Left sha256 e ((submissions sha256 digest).next s c) := by
  intro r v haccepted
  obtain ⟨checked, hv, horigin⟩ := hleft r v haccepted
  refine ⟨checked, hv, ?_⟩
  rw [queues_next]
  cases s.transaction c with
  | none => exact horigin
  | some i =>
    simp only [database_next]
    split
    · next hscope =>
      rw [hscope] at horigin
      exact origins_next (h.consistent _) i horigin
    · exact horigin

theorem replayed_event {e : Event Submissions Command (Option Outcome)} {s : Submissions}
    (h : Kept s.queues) (c : Command) (hleft : Left sha256 e s) {r' : Registration}
    (haccepted : Accepted e r v)
    (hr' : registrationOf ((submissions sha256 digest).event s c) = some r')
    (hsame : r.Repeats r') :
    RowsKept ((submissions sha256 digest).event s c) ∧
    (r'.Checked → sha256 r.request.text = sha256 r'.request.text →
      (submissions sha256 digest).answer s c =
        some (.ok (.submission { v with replayed := true }))) ∧
    ((r'.Checked → sha256 r.request.text ≠ sha256 r'.request.text) →
      ∃ error, (submissions sha256 digest).answer s c = some (.error error)) := by
  obtain ⟨-, hv, horigin⟩ := hleft r v haccepted
  obtain ⟨i, hi, hreg⟩ := Option.bind_eq_some_iff.1 hr'
  have hscope : r.scope = i.scope := by rw [hsame.1, scope_of_registration hreg]
  rw [hscope] at horigin
  obtain ⟨hrows, hok, herror⟩ := repeated_next (h.sound _) horigin hreg hsame
  simp only [Machine.event] at hi
  have hanswer : (submissions sha256 digest).answer s c =
      some ((machine sha256).answer (s.queues i.scope) i) := answer_of_transaction hi
  refine ⟨fun scope => ?_, fun checked hprint => ?_, fun hother => ?_⟩
  · change (((submissions sha256 digest).next s c).queues scope).tables = (s.queues scope).tables
    rw [queues_next]
    simp only [hi, database_next]
    split
    · next hin => rw [hrows, hin]
    · rfl
  · rw [hanswer, hok checked hprint, hv]
    rfl
  · obtain ⟨error, herr⟩ := herror hother
    exact ⟨error, by rw [hanswer, herr]⟩

theorem oneEach_of_sound (h : Consistent s) (hl : s.tables.ledger.Sound) :
    OneEach s.tables := by
  have horigin : ∀ row ∈ s.tables.objects.values,
      s.tables.ledger.origins row.objectId = some row.origin := by
    intro row hrow
    obtain ⟨k, hk⟩ := Dict.mem_values_iff.1 hrow
    obtain rfl := h.objectId k row hk
    change (s.tables.objects.get? row.objectId).map _ = _
    rw [hk, Option.map_some]
  have hfirst : ∀ row ∈ s.tables.jobs.values, row.retryOfJobId = none →
      s.tables.ledger.firsts row.jobId =
        some ⟨row.objectId, row.createdBy, row.deduplicationKey⟩ := by
    intro row hrow hretry
    change (s.tables.jobs.get? row.jobId).bind _ = _
    rw [h.get?_of_mem hrow, Option.bind_some, JobRow.first, if_pos hretry]
  -- a first job is the one of its object, under its actor and its key
  have hof : ∀ row ∈ s.tables.jobs.values, row.retryOfJobId = none →
      row.jobId = "job-" ++ row.objectId ∧ ∃ o, s.tables.ledger.origins row.objectId = some o ∧
        o.actorId = row.createdBy ∧ o.idempotencyKey = row.deduplicationKey := by
    intro row hrow hretry
    obtain ⟨hid, hne⟩ := hl.filed (hfirst row hrow hretry)
    obtain ⟨o, ho⟩ := Option.ne_none_iff_exists'.1 hne
    have hsame := (hl.first ho).symm.trans (hid ▸ hfirst row hrow hretry)
    have hrow' := Option.some.inj hsame
    exact ⟨hid, o, ho, congrArg First.actorId hrow', congrArg First.idempotencyKey hrow'⟩
  refine ⟨fun a ha b hb hactor hkey => ?_, fun a ha b hb hretry hretry' hactor hkey => ?_,
    fun object hobject => ?_⟩
  · have hid := hl.alone (horigin a ha) (horigin b hb) hactor hkey
    obtain ⟨k, hk⟩ := Dict.mem_values_iff.1 ha
    obtain ⟨k', hk'⟩ := Dict.mem_values_iff.1 hb
    obtain rfl := h.objectId k a hk
    obtain rfl := h.objectId k' b hk'
    rw [hid] at hk
    exact Option.some.inj (hk.symm.trans hk')
  · obtain ⟨hid, o, ho, hoactor, hokey⟩ := hof a ha hretry
    obtain ⟨hid', o', ho', hoactor', hokey'⟩ := hof b hb hretry'
    have hobject := hl.alone ho ho' (by rw [hoactor, hoactor', hactor])
      (by rw [hokey, hokey', hkey])
    have ha' := h.get?_of_mem ha
    rw [hid, hobject, ← hid'] at ha'
    exact Option.some.inj (ha'.symm.trans (h.get?_of_mem hb))
  · have hfiled := hl.first (horigin object hobject)
    obtain ⟨job, hjob, hrow⟩ := Option.bind_eq_some_iff.1 hfiled
    unfold JobRow.first at hrow
    split at hrow
    · next hretry =>
      have hrow' := Option.some.inj hrow
      exact ⟨job, Dict.mem_values_of_get? hjob, hretry, congrArg First.objectId hrow',
        congrArg First.actorId hrow', congrArg First.idempotencyKey hrow'⟩
    · cases hrow

/-- For every order of submissions, of their halves and of the other transactions: there is one
object and one first job for each actor and key, a repeated call is answered with the first ids or
refused, and different requests share no object. -/
theorem registrations_idempotent (sha256 : String → String) (digest : List UInt8 → String)
    (is : List Command)
    (hfree : CollisionFree sha256 ((submissions sha256 digest).events is)) :
    Idempotent sha256 digest is := by
  have hkept := (submissions sha256 digest).run_induction (I := fun s => Kept s.queues) kept_init
    (fun s c h => kept_next h c) is
  -- an accepted registration of an earlier step is in the ledger when a later step begins
  have hpairs : ∀ {R : Event Submissions Command (Option Outcome) →
      Event Submissions Command (Option Outcome) → Prop},
      (∀ e s c, Kept s.queues → Left sha256 e s → R e ((submissions sha256 digest).event s c)) →
      ((submissions sha256 digest).events is).Pairwise R := by
    intro R hR
    exact (submissions sha256 digest).events_pairwise (I := fun s => Kept s.queues) kept_init
      (fun s c h => kept_next h c) (fun s c h => left_event h c)
      (fun e s c h hleft => left_next h c hleft) (fun e s c h hleft => hR e s c h hleft) is
  refine ⟨fun scope => oneEach_of_sound (hkept.consistent scope) (hkept.sound scope), ?_, ?_⟩
  · have hfinger : ((submissions sha256 digest).events is).Pairwise fun e e' =>
        ∀ r v r', Accepted e r v → registrationOf e' = some r' → r.Repeats r' →
          r.Checked ∧ RowsKept e' ∧
          (r'.Checked → sha256 r.request.text = sha256 r'.request.text →
            e'.output = some (.ok (.submission { v with replayed := true }))) ∧
          ((r'.Checked → sha256 r.request.text ≠ sha256 r'.request.text) →
            ∃ error, e'.output = some (.error error)) := by
      refine hpairs fun e s c h hleft r v r' haccepted hr' hsame => ?_
      exact ⟨(hleft r v haccepted).1, replayed_event h c hleft haccepted hr' hsame⟩
    refine List.Pairwise.imp_of_mem (fun {e e'} he he' h => ?_) hfinger
    intro r v r' haccepted hr' hsame
    obtain ⟨checked, hrows, hok, herror⟩ := h r v r' haccepted hr' hsame
    refine ⟨hrows, fun checked' hrequest => hok checked' (by rw [hrequest]), fun hother => ?_⟩
    refine herror fun checked' hprint => hother ?_
    have htext := hfree e he e' he' r haccepted.1 r' hr' checked checked' hprint
    exact (Request.text_injective checked.wellFormed checked'.wellFormed htext).symm
  · have horigins : ((submissions sha256 digest).events is).Pairwise fun e e' =>
        ∀ r v r' v', Accepted e r v → Accepted e' r' v' → r.scope = r'.scope →
          v.objectId = v'.objectId → r.Checked ∧ r'.Checked ∧ r.Repeats r' ∧
          sha256 r.request.text = sha256 r'.request.text := by
      refine hpairs fun e s c h hleft r v r' v' haccepted haccepted' hscope hid => ?_
      obtain ⟨checked, -, horigin⟩ := @left_next sha256 digest e s h c hleft r v haccepted
      obtain ⟨checked', -, horigin'⟩ := left_event h c r' v' haccepted'
      rw [hscope, hid] at horigin
      have hsame := Option.some.inj (horigin.symm.trans horigin')
      exact ⟨checked, checked', ⟨hscope, congrArg Origin.actorId hsame,
        congrArg Origin.idempotencyKey hsame⟩, congrArg Origin.fingerprint hsame⟩
    refine List.Pairwise.imp_of_mem (fun {e e'} he he' h => ?_) horigins
    intro r v r' v' haccepted haccepted' hscope hid
    obtain ⟨checked, checked', hsame, hprint⟩ := h r v r' v' haccepted haccepted' hscope hid
    have htext := hfree e he e' he' r haccepted.1 r' haccepted'.1 checked checked' hprint
    exact ⟨hsame, Request.text_injective checked.wellFormed checked'.wellFormed htext⟩

/-! ## What a repeated call may change -/

namespace Submitted

def contentDigest (content : List UInt8) : String :=
  if content = "a".toUTF8.toList then
    "ca978112ca1bbdcafac231b39a23dc4da786eff8147c4e72b9807785afee48bb"
  else
    "3e23e8160039594a33894f6564e1b1348bbd7a0088d42c4acb73eeaed59c009d"

def textDigest (text : String) : String :=
  if text = "source|ca978112ca1bbdcafac231b39a23dc4da786eff8147c4e72b9807785afee48bb|1|text/plain" then
    "c6728825c639ac7b3321902c450bdb581448129bc2f6f5a2e4c8ad5d52064921"
  else
    "be6d36251ccf17206c97bea12a109ebe5f671d3c7688edc35c51d1330a128cfb"

theorem safe_ids : ∀ v ∈ ["tenant", "workspace", "actor", "object.write"], isSafeId v = true := by
  decide

def context : CloudAccessContext := ⟨"tenant", "workspace", "actor", "object.write", safe_ids⟩

def objectId : String := "00000000000000000000000000000000"

def stagingKey : String := "_staging/tenant/workspace/source/00000000000000000000000000000000"

def call (content traceId : String) : Submit where
  context := context
  area := "source"
  content := content.toUTF8.toList
  contentType := "text/plain"
  idempotencyKey := "key-1"
  traceId := traceId
  objectId := some objectId
  drawn := objectId
  maxAttempts := 5

def registration (content traceId : String) : Registration where
  context := context
  objectId := objectId
  area := "source"
  staged := {
    key := stagingKey,
    digestSha256 := contentDigest content.toUTF8.toList, byteSize := 1, contentType := "text/plain",
    etag := "etag", versionId := none }
  finalKey := "tenant/workspace/source/00000000000000000000000000000000"
  idempotencyKey := "key-1"
  traceId := traceId
  maxAttempts := 5
  forceRollback := false

def env : Env := { locked := fun _ => false, enforcer := none, failure := none }

def twice (first second : Submit) : List Command :=
  [.upload first (.stored "etag" none), .register 0 env 0, .upload second (.stored "etag" none),
    .register 0 env 1]

def history (content traceId : String) : List (Event Submissions Command (Option Outcome)) :=
  (submissions textDigest contentDigest).events (twice (call "a" "trace-1") (call content traceId))

theorem one_lt : 1 < (history "a" "trace-2").length := by decide

theorem three_lt : 3 < (history "a" "trace-2").length := by decide

def after : Submissions :=
  (submit textDigest contentDigest (call "a" "trace-1") (.stored "etag" none) env 0
    (submissions textDigest contentDigest).init).2

def again : Option Outcome × Submissions :=
  submit textDigest contentDigest (call "b" "trace-1") (.stored "etag" none) env 1 after

end Submitted

/-- A call and a repeated one with another content. -/
theorem registrations_idempotent_twice :
    CollisionFree Submitted.textDigest (Submitted.history "b" "trace-1") ∧
    Idempotent Submitted.textDigest Submitted.contentDigest
      (Submitted.twice (Submitted.call "a" "trace-1") (Submitted.call "b" "trace-1")) :=
  have hfree : CollisionFree Submitted.textDigest (Submitted.history "b" "trace-1") := by
    decide +kernel
  ⟨hfree, registrations_idempotent _ _ _ hfree⟩

/-- A later call under the key of an accepted one, with any argument changed, is refused and changes
no row. -/
def Exact (e e' : Event Submissions Command (Option Outcome)) : Prop :=
  ∀ r v r', Accepted e r v → registrationOf e' = some r' → r.Repeats r' → r' ≠ r →
    (∃ error, e'.output = some (.error error)) ∧ RowsKept e'

/-- A call with another trace id is answered as a repeated one, and a refused call has replaced the
content that the accepted one staged. -/
theorem trace_not_compared :
    ¬(Submitted.history "a" "trace-2").Pairwise Exact ∧
    Submitted.again.1 = some (.error { code := "IDEMPOTENCY_KEY_REUSED" }) ∧
    Submitted.again.2.staging.get? Submitted.stagingKey ≠
      Submitted.after.staging.get? Submitted.stagingKey := by
  refine ⟨fun h => ?_, by decide +kernel, by decide +kernel⟩
  obtain ⟨⟨error, herror⟩, -⟩ := List.pairwise_iff_get.1 h ⟨1, Submitted.one_lt⟩
    ⟨3, Submitted.three_lt⟩ (by decide)
    (Submitted.registration "a" "trace-1") (submissionOf Submitted.objectId false)
    (Submitted.registration "a" "trace-2") ⟨by decide +kernel, by decide +kernel⟩
    (by decide +kernel) (by decide +kernel) (by decide +kernel)
  have hanswer : ((Submitted.history "a" "trace-2").get ⟨3, Submitted.three_lt⟩).output =
      some (.ok (.submission (submissionOf Submitted.objectId true))) := by
    decide +kernel
  cases hanswer.symm.trans herror

end DaonUser.ObjectQueue
