import DaonUser.Lib.Workflow
import DaonUser.Recovery.Reservation
import Mathlib.Data.List.MinMax

/-!
# The phase receipts of a restore

`PostgresPhaseJournal` with the table `registered_restore_phase_receipts`, its keys, its policy and the
trigger `guard_registered_restore_insert`. The rows are those of one request; the other transactions on the
database change what the checks read and the clock, but no receipt. `journalMade` is what each transaction
makes of them.
-/

namespace DaonUser.Restore

open Lib
open DaonUser.Recovery

/-! ## Rows -/

structure RestoreKey where
  tenantId : String
  workspaceId : String
  requestId : String
  deriving DecidableEq

structure RecoveryContext where
  tenantId : String
  workspaceId : String
  actorId : String
  traceId : String
  policyVersion : String
  organizationAdmin : Bool
  sessionId : Option String
  deviceId : Option String
  deriving DecidableEq

structure LineageCaptureScope where
  captureId : String
  tenantId : String
  workspaceId : String
  actorId : String
  notebookId : String
  rootSourceVersionIds : List String
  dependencySourceVersionIds : List String
  dependencySourceIds : List String
  closureFingerprint : String
  schemaRevision : String
  policyVersion : String
  retentionWatermark : String
  authorizationFingerprint : String
  deriving DecidableEq

structure RestoreBinding where
  requestId : String
  backupId : String
  manifestDigest : String
  receiptDigest : String
  closureFingerprint : String
  retentionWatermark : String
  previewVersion : Int
  includedRoots : List String
  registryGenerationId : String
  destinationId : String
  destinationVersion : Int
  ownerOperationId : String
  operationId : String
  idempotencyKey : String
  previewExpiresAt : Int
  catalogDigest : String
  currentRetentionWatermark : String
  deriving DecidableEq

/-- `registered_restore_previews`, of the request. -/
structure RegisteredPreview where
  previewVersion : Int
  actorId : String
  registryGenerationId : String
  destinationId : String
  destinationVersion : Int
  backupId : String
  manifestVersion : Int
  sourceManifestDigest : String
  closureFingerprint : String
  includedRootsFingerprint : String
  excludedRootsFingerprint : String
  retentionWatermark : String
  expiresAt : Int
  deriving DecidableEq

inductive PhaseOutcome where
  | intent
  | succeeded
  | failed
  | uncertain
  deriving DecidableEq

/-- `registered_restore_phase_receipts`, of the request. -/
structure PhaseReceipt where
  sequence : Nat
  actorId : String
  registryGenerationId : String
  destinationId : String
  destinationVersion : Int
  previewVersion : Int
  operationId : String
  idempotencyKey : String
  phase : Nat
  outcome : PhaseOutcome
  targetDigest : String
  resultDigest : Option String
  traceId : String
  deriving DecidableEq

structure PhaseRecords where
  records : RestoreRecords
  reservations : List Reservation
  previews : List RegisteredPreview
  /-- `clock_timestamp()`. -/
  clock : Int

structure PhaseRows where
  receipts : List PhaseReceipt
  surroundings : PhaseRecords

inductive RestoreError where
  /-- `_invalid()`. -/
  | manifestInvalid
  /-- `RECOVERY_INPUT_INVALID`. -/
  | inputInvalid
  /-- `MaterializationError`. -/
  | materialization (phase : Nat)
  | scopeInvalid
  | modeConflict
  | reservationConflict
  | phaseConflict
  | checkViolation
  | policyViolation
  | uniqueViolation
  /-- Another `Exception`. -/
  | other
  /-- A `BaseException` that is no `Exception`. -/
  | base
  deriving DecidableEq

/-- `isinstance(error, Exception)`. -/
def RestoreError.isException (e : RestoreError) : Bool := e ≠ .base

abbrev Statements := Program PhaseRows ReservationLock RestoreError

/-- `_scope`. -/
def scopeOf (context : RecoveryContext) : Settings :=
  ⟨context.tenantId, context.workspaceId, context.actorId⟩

section Policies

variable (key : RestoreKey) (settings : Settings) (s : PhaseRecords)

def isReserved (r : Reservation) : Bool :=
  r.tenantId = key.tenantId && r.workspaceId = key.workspaceId && r.requestId = key.requestId

def isRequest (q : RestoreRequest) : Bool :=
  q.tenantId = key.tenantId && q.workspaceId = key.workspaceId && q.requestId = key.requestId &&
    isSetting settings.tenantId q.tenantId && isSetting settings.workspaceId q.workspaceId

/-- `registered_restore_previews_scope`. -/
def inPreviewScope (p : RegisteredPreview) : Bool :=
  registeredRestoreActorAllowed settings s.records key.tenantId key.workspaceId p.actorId &&
    s.reservations.any fun r => isReserved key r && r.actorId = p.actorId &&
      r.registryGenerationId = p.registryGenerationId && r.destinationId = p.destinationId &&
      inReservationScope settings s.records r

/-- `registered_restore_phase_scope`, for reads and for new rows. -/
def inPhaseScope (r : PhaseReceipt) : Bool :=
  registeredRestoreActorAllowed settings s.records key.tenantId key.workspaceId r.actorId &&
    s.previews.any fun p => p.actorId = r.actorId && p.previewVersion = r.previewVersion &&
      inPreviewScope key settings s p

/-- `SELECT … FROM restore_requests … FOR UPDATE`. -/
def lockRequest : Statements (Option RestoreRequest) :=
  Program.readLocked
    (fun rows => (rows.surroundings.records.requests.filter (isRequest key settings)).map fun q =>
      .restoreRequest q.tenantId q.workspaceId q.requestId)
    fun rows => rows.surroundings.records.requests.find? (isRequest key settings)

end Policies

/-! ## The trigger -/

/-- The receipt with the greatest `sequence`. -/
def latest (receipts : List PhaseReceipt) : Option PhaseReceipt := receipts.argmax (·.sequence)

/-- The `CHECK`s. -/
def PhaseReceipt.Checks (r : PhaseReceipt) : Prop :=
  0 < r.sequence ∧ isSafeId r.operationId ∧ isSafeId r.idempotencyKey ∧
    (1 ≤ r.phase ∧ r.phase ≤ 7) ∧ isDigest r.targetDigest ∧ (∀ d ∈ r.resultDigest, isDigest d) ∧
    isSafeId r.traceId ∧ (r.outcome = .intent ↔ r.resultDigest = none)

instance (r : PhaseReceipt) : Decidable r.Checks :=
  inferInstanceAs (Decidable (_ ∧ _))

/-- The key and the `UNIQUE` key of the table. -/
def Admits (receipts : List PhaseReceipt) (new : PhaseReceipt) : Prop :=
  ∀ r ∈ receipts, r.sequence ≠ new.sequence ∧
    (r.operationId, r.phase, r.outcome) ≠ (new.operationId, new.phase, new.outcome)

instance (receipts : List PhaseReceipt) (new : PhaseReceipt) : Decidable (Admits receipts new) :=
  inferInstanceAs (Decidable (∀ _ ∈ _, _))

/-- A new receipt after another one. -/
def Continues (previous new : PhaseReceipt) : Prop :=
  new.sequence = previous.sequence + 1 ∧
    (new.operationId = previous.operationId ∧ new.idempotencyKey = previous.idempotencyKey ∧
      new.previewVersion = previous.previewVersion ∧ new.targetDigest = previous.targetDigest) ∧
    ¬(previous.outcome = .failed ∨ previous.outcome = .uncertain) ∧
    ¬(previous.outcome = .intent ∧ (new.phase ≠ previous.phase ∨
      ¬(new.outcome = .succeeded ∨ new.outcome = .failed ∨ new.outcome = .uncertain))) ∧
    ¬(previous.outcome = .succeeded ∧ (new.phase ≠ previous.phase + 1 ∨ new.outcome ≠ .intent))

instance (previous new : PhaseReceipt) : Decidable (Continues previous new) :=
  inferInstanceAs (Decidable (_ ∧ _))

theorem Continues.closes {previous new : PhaseReceipt} (h : Continues previous new)
    (hprevious : previous.outcome = .intent) : new.phase = previous.phase ∧
      (new.outcome = .succeeded ∨ new.outcome = .failed ∨ new.outcome = .uncertain) := by
  obtain ⟨-, -, -, hintent, -⟩ := h
  exact ⟨by_contra fun hne => hintent ⟨hprevious, Or.inl hne⟩,
    by_contra fun hne => hintent ⟨hprevious, Or.inr hne⟩⟩

theorem Continues.opens {previous new : PhaseReceipt} (h : Continues previous new)
    (hprevious : previous.outcome = .succeeded) :
    new.phase = previous.phase + 1 ∧ new.outcome = .intent := by
  obtain ⟨-, -, -, -, hsucceeded⟩ := h
  exact ⟨by_contra fun hne => hsucceeded ⟨hprevious, Or.inl hne⟩,
    by_contra fun hne => hsucceeded ⟨hprevious, Or.inr hne⟩⟩

def phaseStates : List RestoreState := [.authorized, .restoring, .verifying, .failed]

section Trigger

variable (key : RestoreKey) (settings : Settings)

/-- `guard_registered_restore_insert` on a new receipt. -/
def guardPhaseInsert (new : PhaseReceipt) : Statements Unit := do
  let parent ← lockRequest key settings
  let parent ← Program.require parent .scopeInvalid
  let conflict ← Program.read fun rows => new.actorId ≠ parent.actorId ||
    !registeredRestoreActorAllowed settings rows.surroundings.records key.tenantId key.workspaceId
      new.actorId ||
    rows.surroundings.records.previews.any fun p => p.tenantId = key.tenantId &&
      p.workspaceId = key.workspaceId && p.requestId = key.requestId
  Program.ensure (conflict = false) .modeConflict
  let reservation ← Program.read fun rows => rows.surroundings.reservations.find? (isReserved key)
  Program.ensure (∃ r ∈ reservation, (new.registryGenerationId, new.destinationId,
    new.destinationVersion, new.actorId) =
      (r.registryGenerationId, r.destinationId, r.destinationVersion, r.actorId)) .reservationConflict
  Program.ensure (parent.state ∈ phaseStates) .phaseConflict
  Program.ensure (parent.state = .failed → new.outcome = .failed ∨ new.outcome = .uncertain)
    .phaseConflict
  let selected ← Program.read fun rows =>
    rows.surroundings.previews.find? fun p => p.previewVersion = new.previewVersion
  let selected ← Program.require selected .phaseConflict
  let previous ← Program.read fun rows => latest rows.receipts
  match previous with
  | none => do
    let refused ← Program.read fun rows => selected.expiresAt ≤ rows.surroundings.clock ||
      rows.surroundings.previews.any fun p => new.previewVersion < p.previewVersion
    Program.ensure ((new.sequence = 1 ∧ new.phase = 1 ∧ new.outcome = .intent) ∧ refused = false)
      .phaseConflict
  | some previous => Program.ensure (Continues previous new) .phaseConflict

/-- `INSERT INTO registered_restore_phase_receipts`. -/
def insertReceipt (new : PhaseReceipt) : Statements Unit := do
  guardPhaseInsert key settings new
  let allowed ← Program.read fun rows => inPhaseScope key settings rows.surroundings new
  Program.ensure (allowed = true) .policyViolation
  Program.ensure new.Checks .checkViolation
  Program.insert (fun _ => []) (fun rows => Admits rows.receipts new)
    (fun rows => { rows with receipts := rows.receipts ++ [new] }) .uniqueViolation

end Trigger

/-! ## The journal -/

def hash_ (sha256 : String → String) (v : Json Int) : String := sha256 (Json.canonical v)

section Journal

variable (sha256 : String → String) (key : RestoreKey)

/-- The preview that a call is bound to, with the reservation of its destination. -/
def findPreview (context : RecoveryContext) (binding : RestoreBinding) (s : PhaseRecords) :
    Option (RegisteredPreview × Reservation) :=
  (s.previews.product s.reservations).find? fun row =>
    isReserved key row.2 && row.1.previewVersion = binding.previewVersion &&
      row.1.actorId = context.actorId && row.1.manifestVersion = 3 &&
      inPreviewScope key (scopeOf context) s row.1 &&
      inReservationScope (scopeOf context) s.records row.2 &&
      s.records.manifests.any fun m => m.tenantId = key.tenantId && m.workspaceId = key.workspaceId &&
        m.backupId = row.1.backupId && m.manifestVersion = row.1.manifestVersion &&
        m.manifestDigest = row.1.sourceManifestDigest

/-- `expected`. -/
def IsBound (binding : RestoreBinding) (row : RegisteredPreview × Reservation) : Prop :=
  row.1.registryGenerationId = binding.registryGenerationId ∧
    row.1.destinationId = binding.destinationId ∧
    row.1.destinationVersion = binding.destinationVersion ∧
    row.1.sourceManifestDigest = binding.manifestDigest ∧
    row.1.closureFingerprint = binding.closureFingerprint ∧
    row.1.retentionWatermark = binding.retentionWatermark ∧
    row.1.expiresAt = binding.previewExpiresAt ∧
    row.2.ownerOperationId = binding.ownerOperationId

instance (binding : RestoreBinding) (row : RegisteredPreview × Reservation) :
    Decidable (IsBound binding row) :=
  inferInstanceAs (Decidable (_ ∧ _))

/-- `sorted(set(scope.root_source_version_ids)-set(binding.included_roots))`. -/
def excludedRoots (binding : RestoreBinding) (scope : LineageCaptureScope) : List String :=
  (scope.rootSourceVersionIds.filter (· ∉ binding.includedRoots)).dedup.mergeSort

def IsDestined (binding : RestoreBinding) (destination : RegisteredDestination)
    (scope : LineageCaptureScope) (row : RegisteredPreview × Reservation) : Prop :=
  row.2.physicalReceiptDigest = destination.physicalReceiptDigest ∧
    row.1.includedRootsFingerprint = hash_ sha256 (.arr (binding.includedRoots.map .str)) ∧
    row.1.excludedRootsFingerprint = hash_ sha256 (.arr ((excludedRoots binding scope).map .str)) ∧
    row.2.targetDatabaseFingerprint = destination.targetDatabaseFingerprint ∧
    row.2.targetBucketFingerprint = destination.targetBucketFingerprint

instance (binding : RestoreBinding) (destination : RegisteredDestination)
    (scope : LineageCaptureScope) (row : RegisteredPreview × Reservation) :
    Decidable (IsDestined sha256 binding destination scope row) :=
  inferInstanceAs (Decidable (_ ∧ _))

/-- `_transaction`, up to its `yield`. -/
def transaction (context : RecoveryContext) (binding : RestoreBinding)
    (destination : Option (RegisteredDestination × LineageCaptureScope)) : Statements Unit := do
  let parent ← lockRequest key (scopeOf context)
  Program.ensure (∃ q ∈ parent, q.backupId = binding.backupId ∧ q.actorId = context.actorId)
    .manifestInvalid
  let row ← Program.read fun rows => findPreview key context binding rows.surroundings
  Program.ensure (∃ r ∈ row, IsBound binding r) .manifestInvalid
  Program.ensure (∀ d ∈ destination, ∃ r ∈ row, IsDestined sha256 binding d.1 d.2 r) .manifestInvalid

/-- What `load` reads of a receipt. -/
structure HistoryRow where
  sequence : Nat
  phase : Nat
  outcome : PhaseOutcome
  targetDigest : String
  resultDigest : Option String
  operationId : String
  idempotencyKey : String
  traceId : String
  deriving DecidableEq

def PhaseReceipt.row (r : PhaseReceipt) : HistoryRow :=
  ⟨r.sequence, r.phase, r.outcome, r.targetDigest, r.resultDigest, r.operationId, r.idempotencyKey,
    r.traceId⟩

def load (context : RecoveryContext) (binding : RestoreBinding) (destination : RegisteredDestination)
    (scope : LineageCaptureScope) : Statements (List HistoryRow) := do
  transaction sha256 key context binding (some (destination, scope))
  Program.read fun rows => ((rows.receipts.filter
    (inPhaseScope key (scopeOf context) rows.surroundings)).mergeSort
      fun r r' => r.sequence ≤ r'.sequence).map PhaseReceipt.row

/-- `coalesce(max(sequence),0)+1`. -/
def nextSequence (receipts : List PhaseReceipt) : Nat :=
  (receipts.map (·.sequence)).foldl max 0 + 1

def append (context : RecoveryContext) (binding : RestoreBinding) (phase : Nat) (outcome : PhaseOutcome)
    (targetDigest : String) (resultDigest : Option String) : Statements Unit := do
  transaction sha256 key context binding none
  let sequence ← Program.read fun rows => nextSequence
    (rows.receipts.filter (inPhaseScope key (scopeOf context) rows.surroundings))
  insertReceipt key (scopeOf context)
    { sequence, actorId := context.actorId, registryGenerationId := binding.registryGenerationId,
      destinationId := binding.destinationId, destinationVersion := binding.destinationVersion,
      previewVersion := binding.previewVersion, operationId := binding.operationId,
      idempotencyKey := binding.idempotencyKey, phase, outcome, targetDigest, resultDigest,
      traceId := context.traceId }

/-- A transaction on the database: one of the journal, or one that changes what the checks read. -/
inductive JournalCall where
  | load (context : RecoveryContext) (binding : RestoreBinding) (destination : RegisteredDestination)
      (scope : LineageCaptureScope)
  | append (context : RecoveryContext) (binding : RestoreBinding) (phase : Nat)
      (outcome : PhaseOutcome) (targetDigest : String) (resultDigest : Option String)
  | change (locks : PhaseRecords → List ReservationLock)
      (write : PhaseRecords → PhaseRecords → PhaseRecords)

inductive JournalAnswer where
  | history (rows : List HistoryRow)
  | done

def JournalCall.program : JournalCall → Statements JournalAnswer
  | load context binding destination scope => do
    let rows ← Restore.load sha256 key context binding destination scope
    pure (.history rows)
  | append context binding phase outcome targetDigest resultDigest => do
    Restore.append sha256 key context binding phase outcome targetDigest resultDigest
    pure .done
  | change locks write => Program.statement (fun rows => locks rows.surroundings)
      (fun v rows => { rows with surroundings := write v.surroundings rows.surroundings })
      fun _ => Program.finish (.ok .done)

end Journal

/-! ## What a transaction makes of the receipts -/

def Follows (receipts : List PhaseReceipt) (new : PhaseReceipt) : Prop :=
  (match latest receipts with
    | none => new.sequence = 1 ∧ new.phase = 1 ∧ new.outcome = .intent
    | some previous => Continues previous new) ∧ new.phase ≤ 7

/-- What a transaction that returns makes of the receipts, while it holds the row of the request. -/
def journalMade : JournalCall → JournalAnswer → Hold (List PhaseReceipt) → Prop
  | .load .., .history rows, hold =>
    ∃ b, hold = .held b b ∧ ∀ row ∈ rows, ∃ r ∈ b, row = r.row
  | .append _ _ phase outcome targetDigest _, .done, hold => ∃ b new, hold = .held b (b ++ [new]) ∧
      new.phase = phase ∧ new.outcome = outcome ∧ new.targetDigest = targetDigest ∧ Follows b new
  | .change .., .done, hold => hold = .free ∨ ∃ b, hold = .held b b
  | _, _, _ => False

section Made

variable {sha256 : String → String} {key : RestoreKey} {settings : Settings}
  {pre : List PhaseReceipt → Prop} {before now b : List PhaseReceipt}

def RestoreKey.lock (key : RestoreKey) : ReservationLock :=
  .restoreRequest key.tenantId key.workspaceId key.requestId

theorem lock_of_isRequest {q : RestoreRequest} (h : isRequest key settings q = true) :
    ReservationLock.restoreRequest q.tenantId q.workspaceId q.requestId = key.lock := by
  simp only [isRequest, Bool.and_eq_true, decide_eq_true_eq] at h
  rw [h.1.1.1.1, h.1.1.1.2, h.1.1.2]
  rfl

theorem lockRequest_meets {Q : Option RestoreRequest → Hold (List PhaseReceipt) → Prop}
    (hnone : Q none .free) (hheld : ∀ q b, Q q (.held b b)) :
    (lockRequest key settings).Meets key.lock PhaseRows.receipts pre Q .free := by
  refine Program.meets_readLocked_free.2 fun v => ⟨fun hmem => ?_, fun _ _ => hheld _ _⟩
  cases hfind : v.surroundings.records.requests.find? (isRequest key settings) with
  | none => exact hnone
  | some q =>
    have hq := List.find?_some hfind
    refine absurd (List.mem_map.2 ⟨q, List.mem_filter.2 ⟨List.mem_of_find?_eq_some hfind, hq⟩, ?_⟩) hmem
    exact lock_of_isRequest hq

theorem transaction_meets {context : RecoveryContext} {binding : RestoreBinding}
    {destination : Option (RegisteredDestination × LineageCaptureScope)}
    {Q : Unit → Hold (List PhaseReceipt) → Prop} (hQ : ∀ b, Q () (.held b b)) :
    (transaction sha256 key context binding destination).Meets key.lock PhaseRows.receipts pre Q
      .free := by
  simp only [transaction, Program.meets_bind, Program.meets_ensure]
  refine lockRequest_meets (fun h => absurd h (by simp)) fun q b _ => ?_
  simp only [Program.meets_read_held]
  exact fun v _ _ _ => hQ b

theorem guardPhaseInsert_meets {new : PhaseReceipt} {Q : Unit → Hold (List PhaseReceipt) → Prop}
    (hQ : (match latest now with
      | none => new.sequence = 1 ∧ new.phase = 1 ∧ new.outcome = .intent
      | some previous => Continues previous new) → Q () (.held before now)) :
    (guardPhaseInsert key settings new).Meets key.lock PhaseRows.receipts pre Q
      (.held before now) := by
  simp only [guardPhaseInsert, lockRequest, Program.meets_bind, Program.meets_readLocked_held,
    Program.meets_require, Program.meets_read_held, Program.meets_ensure]
  intro v _ parent _ v₁ _ _ v₂ _ _ _ _ v₃ _ selected _ v₄ hv₄
  rw [hv₄]
  cases hlatest : latest now with
  | none =>
    simp only [Program.meets_bind, Program.meets_read_held, Program.meets_ensure]
    intro v₅ _ hnew
    rw [hlatest] at hQ
    exact hQ hnew.1
  | some previous =>
    simp only [Program.meets_ensure]
    rw [hlatest] at hQ
    exact hQ

theorem insertReceipt_meets {new : PhaseReceipt} {Q : Unit → Hold (List PhaseReceipt) → Prop}
    (hQ : Follows now new → Q () (.held before (now ++ [new]))) :
    (insertReceipt key settings new).Meets key.lock PhaseRows.receipts pre Q (.held before now) := by
  simp only [insertReceipt, Program.meets_bind]
  refine guardPhaseInsert_meets fun hfollows => ?_
  simp only [Program.meets_read_held, Program.meets_ensure]
  intro v _ _ hchecks
  refine Program.meets_insert_admitted (fun rows hrows => ?_) fun _ _ _ =>
    hQ ⟨hfollows, hchecks.2.2.2.1.2⟩
  change rows.receipts ++ [new] = now ++ [new]
  rw [show rows.receipts = now from hrows]

theorem journal_meets (call : JournalCall) :
    (call.program sha256 key).Meets key.lock PhaseRows.receipts (fun _ => True) (journalMade call)
      .free := by
  cases call with
  | load context binding destination scope =>
    simp only [JournalCall.program, Restore.load, Program.meets_bind]
    refine transaction_meets fun b => ?_
    simp only [Program.meets_read_held, Program.meets_pure]
    rintro v rfl
    refine ⟨_, rfl, fun row hrow => ?_⟩
    obtain ⟨r, hr, rfl⟩ := List.mem_map.1 hrow
    exact ⟨r, (List.mem_filter.1 (List.mem_mergeSort.1 hr)).1, rfl⟩
  | append context binding phase outcome targetDigest resultDigest =>
    simp only [JournalCall.program, Restore.append, Program.meets_bind]
    refine transaction_meets fun b => ?_
    simp only [Program.meets_read_held]
    intro v _
    refine insertReceipt_meets fun hfollows => ?_
    exact Program.meets_pure.2 ⟨b, _, rfl, rfl, rfl, rfl, hfollows⟩
  | change locks write =>
    intro v
    exact ⟨fun _ => ⟨fun _ => rfl, Or.inl rfl⟩, fun _ _ => ⟨_, fun _ hs => hs, Or.inr ⟨_, rfl⟩⟩⟩

end Made

end DaonUser.Restore
