import DaonUser.Base
import DaonUser.Canon.Model
import DaonUser.Lib.JsonRead
import DaonUser.Lib.ReadCommitted
import DaonUser.Lib.Utf8

/-!
# Website imports of one key

The transactions of `PostgresWebsiteSourceRepository` for one scope and one idempotency key, with the row of
the key in `website_import_requests` and the rows that a completed import leaves. Other transactions change
whether the notebook is open, the stored objects, and which snapshots the policy of
`website_source_snapshots` hides. A transaction may be aborted at any time, by a deadline or by keys and
triggers that are left out.
-/

namespace DaonUser.WebsiteImport

open Lib

/-! ## Values -/

structure WebPrimitives where
  /-- `normalize_public_url`; it raises for `none`. -/
  normalize : String → Option String
  /-- `hashlib.sha256(bytes).hexdigest()`. -/
  sha256 : List UInt8 → String
  /-- `datetime.fromisoformat` takes the text. -/
  isMoment : String → Bool

/-- The scope of a `WebsiteImportContext`, and the idempotency key. -/
structure ImportScope where
  tenantId : String
  workspaceId : String
  actorId : String
  notebookId : String
  idempotencyKey : String
  deriving DecidableEq

inductive ImportError where
  /-- `WebsiteImportError(code, status)`. -/
  | website (code : String) (status : Nat)
  /-- `WebsiteFetchError`, of `normalize_public_url`. -/
  | fetch
  /-- The database gives the transaction up, or the process stops. -/
  | lost
  deriving DecidableEq

namespace ImportError

def storageUnavailable : ImportError := website "WEBSITE_STORAGE_UNAVAILABLE" 503

def inProgress : ImportError := website "WEBSITE_IMPORT_IN_PROGRESS" 409

def keyReused : ImportError := website "WEBSITE_IDEMPOTENCY_KEY_REUSED" 409

def fetchBlocked : ImportError := website "WEBSITE_FETCH_BLOCKED" 403

def accessDenied : ImportError := website "WEBSITE_ACCESS_DENIED" 403

def fetchFailed : ImportError := website "WEBSITE_FETCH_FAILED" 502

def textUnavailable : ImportError := website "WEBSITE_TEXT_UNAVAILABLE" 422

end ImportError

structure WebsiteImportResult where
  snapshotId : String
  sourceId : String
  sourceVersionId : String
  sourceState : String
  replayed : Bool
  deriving DecidableEq

structure WebsiteImportClaim where
  requestId : String
  fingerprint : String
  replayed : Bool
  result : Option WebsiteImportResult
  deriving DecidableEq

structure FetchedWebsite where
  requestedUrl : String
  finalUrl : String
  redirectUrls : List String
  title : String
  publishedAt : Option String
  licenseStatus : String
  licenseUrl : Option String
  fetchedAt : String
  rawContent : List UInt8
  textContent : List UInt8
  rawSha256 : String
  textSha256 : String
  extractionVersion : String
  deriving DecidableEq

/-! ## Rows -/

inductive ImportState where
  | fetching
  | storing
  | completed
  | failed
  deriving DecidableEq

/-- An element of `history`: an attempt that failed. -/
structure PastAttempt where
  requestId : String
  rawObjectId : String
  textObjectId : String
  attempt : Nat
  safeErrorCode : Option String
  traceId : String
  deriving DecidableEq

/-- The row of the key in `website_import_requests`. -/
structure ImportRequest where
  requestId : String
  fingerprint : String
  requestedUrl : String
  state : ImportState
  attempt : Nat
  history : List PastAttempt
  rawObjectId : String
  textObjectId : String
  snapshotId : Option String
  safeErrorCode : Option String
  policyVersion : String
  policyFingerprint : String
  deriving DecidableEq

/-- `website_source_snapshots`. -/
structure SnapshotRow where
  snapshotId : String
  sourceId : String
  sourceVersionId : String
  requestId : String
  rawObjectId : String
  textObjectId : String
  page : FetchedWebsite
  policyVersion : String
  policyFingerprint : String
  traceId : String
  deriving DecidableEq

/-- `sources`. -/
structure SourceRow where
  recordId : String
  state : String
  version : Nat
  deriving DecidableEq

/-- `source_versions`. -/
structure SourceVersionRow where
  recordId : String
  sourceId : String
  objectId : String
  deriving DecidableEq

/-- `notebook_bindings` of the notebook, of the kind `source`. -/
structure BindingRow where
  recordId : String
  versionId : String
  deriving DecidableEq

/-- `evidence_spans`. -/
structure SpanRow where
  recordId : String
  sourceVersionId : String
  text : String
  deriving DecidableEq

/-- `index_versions`. -/
structure IndexRow where
  recordId : String
  sourceVersionId : String
  chunks : List SpanRow
  deriving DecidableEq

/-- `object_records`. -/
structure ObjectRow where
  objectId : String
  status : String
  digestSha256 : String
  byteSize : Nat
  createdBy : String
  deriving DecidableEq

/-- What other transactions change: whether `_notebook` finds the notebook, the stored objects, and the
snapshots whose source was unbound, replaced or deleted. -/
structure Surroundings where
  notebookOpen : Bool
  objects : List ObjectRow
  hidden : List String
  deriving DecidableEq

structure ImportRows where
  request : Option ImportRequest
  snapshots : List SnapshotRow
  sources : List SourceRow
  versions : List SourceVersionRow
  bindings : List BindingRow
  spans : List SpanRow
  indexes : List IndexRow
  others : Surroundings
  deriving DecidableEq

inductive ImportLock where
  | advisory
  | request
  deriving DecidableEq

abbrev Op (α : Type) := Program ImportRows ImportLock ImportError α

/-! ## Ids -/

section Calls

variable (w : WebPrimitives) (scope : ImportScope)

/-- `hashlib.sha256(text.encode()).hexdigest()`. -/
def sha256Text (text : String) : String := w.sha256 (utf8 text.toList)

def firstChars (n : Nat) (s : String) : String := String.ofList (s.toList.take n)

def objectId (claim : WebsiteImportClaim) (kind : String) : String :=
  firstChars 32 (sha256Text w (claim.requestId ++ "|" ++ kind))

def fingerprint (url : String) : String :=
  sha256Text w (Json.canonical (.obj [("scope", .arr [.str scope.tenantId, .str scope.workspaceId,
    .str scope.actorId, .str scope.notebookId]), ("url", .str url),
    ("key", .str scope.idempotencyKey)] : Json Int))

/-- `'website-request-' + uuid4().hex`. -/
def requestIdOf (uuid : String) : String := "website-request-" ++ uuid

/-- `claim.request_id[16:]`. -/
def claimSuffix (claim : WebsiteImportClaim) : String :=
  String.ofList (claim.requestId.toList.drop 16)

def validatePage (page : FetchedWebsite) (requestedUrl : String) : Except ImportError Unit :=
  if page.requestedUrl ≠ requestedUrl then .error .fetchFailed
  else match w.normalize page.finalUrl with
    | none => .error .fetch
    | some finalUrl =>
      if finalUrl ≠ page.finalUrl ∨
          ¬(0 < page.rawContent.length ∧ page.rawContent.length ≤ 2097152) ∨
          ¬(0 < page.textContent.length ∧ page.textContent.length ≤ 524288) ∨
          w.sha256 page.rawContent ≠ page.rawSha256 ∨ w.sha256 page.textContent ≠ page.textSha256 ∨
          page.extractionVersion ≠ "website-text-v1" ∨
          page.licenseStatus ∉ ["unknown", "publisher_declared"] ∨
          (page.licenseStatus = "unknown" ∧ page.licenseUrl ≠ none) then
        .error .fetchFailed
      else match readUtf8 page.textContent.length page.textContent with
        | none => .error .fetchFailed
        | some text =>
          if text.all isSpace ∨ ¬w.isMoment page.fetchedAt then .error .fetchFailed else .ok ()

/-- `website_text_chunks`, from the chunk that starts at `start` on. -/
def websiteTextChunks (sourceVersionId : String) : Nat → Nat → List Char → List SpanRow
  | 0, _, _ => []
  | fuel + 1, start, text =>
    if text = [] then []
    else
      let rest := websiteTextChunks sourceVersionId fuel (start + 1024) (text.drop 1024)
      if (text.take 1024).all isSpace then rest
      else
        let id := firstChars 32 (sha256Text w (sourceVersionId ++ "|" ++ toString start))
        ⟨"web-span-" ++ id, sourceVersionId, String.ofList (text.take 1024)⟩ :: rest

/-! ## `claim` -/

/-- A call of `claim`. `policyFingerprint` is what the supplier answers, `none` when it raises, `uuid` what
`uuid4` draws, and `lockFree` what `pg_try_advisory_xact_lock` answers: it says `true` at a moment when the
lock is free, which is when the statement runs here. -/
structure ClaimCall where
  url : String
  policyFingerprint : Option String
  policyVersion : String
  traceId : String
  uuid : String
  lockFree : Bool
  deriving DecidableEq

def policyFingerprint_ (supplied : Option String) : Op String :=
  Program.require (supplied.filter (· ≠ "")) .fetchBlocked

def notebook_ : Op Unit := do
  let isOpen ← Program.read fun rows => rows.others.notebookOpen
  Program.ensure (isOpen = true) .accessDenied

def lockKey : Op (Option ImportRequest) :=
  Program.readLocked (fun rows => if rows.request.isSome then [.request] else []) (·.request)

def newRequest (c : ClaimCall) (url policy : String) (claim : WebsiteImportClaim) : ImportRequest where
  requestId := claim.requestId
  fingerprint := claim.fingerprint
  requestedUrl := url
  state := .fetching
  attempt := 1
  history := []
  rawObjectId := objectId w claim "raw"
  textObjectId := objectId w claim "text"
  snapshotId := none
  safeErrorCode := none
  policyVersion := c.policyVersion
  policyFingerprint := policy

def retried (c : ClaimCall) (policy : String) (claim : WebsiteImportClaim) (r : ImportRequest) :
    ImportRequest :=
  { r with
    requestId := claim.requestId
    state := .fetching
    attempt := r.attempt + 1
    history := r.history ++
      [⟨r.requestId, r.rawObjectId, r.textObjectId, r.attempt, r.safeErrorCode, c.traceId⟩]
    rawObjectId := objectId w claim "raw"
    textObjectId := objectId w claim "text"
    safeErrorCode := none
    policyVersion := c.policyVersion
    policyFingerprint := policy }

def findSnapshot (snapshotId : Option String) (rows : ImportRows) : Option SnapshotRow :=
  rows.snapshots.find? fun s => some s.snapshotId = snapshotId && !rows.others.hidden.contains s.snapshotId

def replayedClaim (r : ImportRequest) (fingerprint : String) (s : SnapshotRow) : WebsiteImportClaim :=
  ⟨r.requestId, fingerprint, true,
    some ⟨s.snapshotId, s.sourceId, s.sourceVersionId, "ready", false⟩⟩

def claim (c : ClaimCall) : Op WebsiteImportClaim := do
  let url ← Program.require (w.normalize c.url) .fetch
  let policy ← policyFingerprint_ c.policyFingerprint
  let fp := fingerprint w scope url
  let new : WebsiteImportClaim := ⟨requestIdOf c.uuid, fp, false, none⟩
  notebook_
  Program.ensure (c.lockFree = true) .inProgress
  Program.readLocked (fun _ => [.advisory]) fun _ => ()
  let prior ← lockKey
  match prior with
  | some r => do
    Program.ensure (r.fingerprint = fp) .keyReused
    if r.state = .completed then do
      let row ← Program.read (findSnapshot r.snapshotId)
      let row ← Program.require row .storageUnavailable
      pure (replayedClaim r fp row)
    else do
      Program.ensure (r.state = .failed) .inProgress
      -- the trigger asks for another id
      Program.ensure (new.requestId ≠ r.requestId) .storageUnavailable
      Program.write (fun _ => [.request]) fun rows =>
        { rows with request := some (retried w c policy new r) }
      pure new
  | none => do
    Program.insert (fun _ => [.request]) (fun rows => rows.request = none)
      (fun rows => { rows with request := some (newRequest w c url policy new) }) .storageUnavailable
    pure new

def ImportRequest.isOf (claim : WebsiteImportClaim) (states : List ImportState) (r : ImportRequest) :
    Bool :=
  r.requestId = claim.requestId && r.fingerprint = claim.fingerprint && states.contains r.state

def ImportRows.hit (claim : WebsiteImportClaim) (states : List ImportState) (rows : ImportRows) : Bool :=
  rows.request.any (·.isOf claim states)

/-- An `UPDATE` of the row of an attempt in one of these states, whose number of rows is read. -/
def updateAttempt (claim : WebsiteImportClaim) (states : List ImportState)
    (set : ImportRequest → ImportRequest) : Op Bool :=
  Program.statement (fun rows => if rows.hit claim states then [.request] else [])
    (fun v rows =>
      if v.hit claim states then { rows with request := rows.request.map set } else rows)
    fun v => Program.finish (.ok (v.hit claim states))

def markStoring (claim : WebsiteImportClaim) : Op Unit := do
  let updated ← updateAttempt claim [.fetching] fun r => { r with state := .storing }
  Program.ensure (updated = true) .inProgress

/-- The codes that `fail` takes. -/
def failCodes : List String :=
  ["WEBSITE_ACCESS_DENIED", "WEBSITE_FETCH_BLOCKED", "WEBSITE_FETCH_FAILED", "WEBSITE_FETCH_TIMEOUT",
    "WEBSITE_CONTENT_TOO_LARGE", "WEBSITE_MEDIA_UNSUPPORTED", "WEBSITE_TEXT_UNAVAILABLE",
    "WEBSITE_URL_INVALID", "WEBSITE_STORAGE_UNAVAILABLE"]

def fail (claim : WebsiteImportClaim) (safeErrorCode : String) : Op Unit := do
  Program.ensure (safeErrorCode ∈ failCodes) .storageUnavailable
  let _ ← updateAttempt claim [.fetching, .storing] fun r =>
    { r with state := .failed, safeErrorCode := some safeErrorCode }
  pure ()

/-! ## `complete` -/

/-- A call of `complete`. `policy` and `policyAgain` are what the supplier of the policy fingerprint answers
before the transaction and at its end. -/
structure CompleteCall where
  claim : WebsiteImportClaim
  page : FetchedWebsite
  rawObjectId : String
  textObjectId : String
  policyVersion : String
  traceId : String
  policy : Option String
  policyAgain : Option String
  deriving DecidableEq

namespace CompleteCall

variable (c : CompleteCall)

def sourceId : String := "web-source-" ++ claimSuffix c.claim

def sourceVersionId : String := "web-version-" ++ claimSuffix c.claim

def snapshotId : String := "web-snapshot-" ++ claimSuffix c.claim

def snapshot (policy : String) : SnapshotRow where
  snapshotId := c.snapshotId
  sourceId := c.sourceId
  sourceVersionId := c.sourceVersionId
  requestId := c.claim.requestId
  rawObjectId := c.rawObjectId
  textObjectId := c.textObjectId
  page := c.page
  policyVersion := c.policyVersion
  policyFingerprint := policy
  traceId := c.traceId

def result : WebsiteImportResult := ⟨c.snapshotId, c.sourceId, c.sourceVersionId, "ready", false⟩

end CompleteCall

def lockAttempt (claim : WebsiteImportClaim) : Op (Option ImportRequest) :=
  Program.readLocked
    (fun rows => if rows.request.any fun r => r.requestId = claim.requestId then [.request] else [])
    fun rows => rows.request.filter fun r => r.requestId = claim.requestId

def checkObject (objectId digest : String) (body : List UInt8) : Op Unit := do
  let stored ← Program.read fun rows => rows.others.objects.find? fun o => o.objectId = objectId
  Program.ensure (∃ o ∈ stored, o.status = "completed" ∧ o.digestSha256 = digest ∧
    o.byteSize = body.length ∧ o.createdBy = scope.actorId) .storageUnavailable

/-- `transition_canon_state` on a source, which must succeed. -/
local instance lawfulRules : LawfulBEq (String × String) := inferInstance

def transitionSource (sourceId target : String) (version : Nat) : Op Unit := do
  let source ← Program.read fun rows => rows.sources.find? fun s => s.recordId = sourceId
  Program.ensure (∃ s ∈ source, s.version = version ∧
    (s.state, target) ∈ Canon.CanonTable.sources.transitionRules) .storageUnavailable
  Program.write (fun _ => []) fun rows =>
    { rows with sources := rows.sources.map fun s =>
        if s.recordId = sourceId then { s with state := target, version := s.version + 1 } else s }

/-- `guard_website_snapshot_binding`. -/
def bindingValid (new : SnapshotRow) (rows : ImportRows) : Bool :=
  (rows.request.any fun r => r.requestId = new.requestId && r.rawObjectId = new.rawObjectId &&
    r.textObjectId = new.textObjectId && r.requestedUrl = new.page.requestedUrl &&
    r.policyVersion = new.policyVersion && r.policyFingerprint = new.policyFingerprint &&
    [ImportState.fetching, .storing].contains r.state) &&
  (rows.versions.any fun v => v.recordId = new.sourceVersionId && v.sourceId = new.sourceId &&
    v.objectId = new.textObjectId &&
    rows.sources.any fun s => s.recordId = v.sourceId && s.state = "ready") &&
  (rows.others.objects.any fun o => o.objectId = new.rawObjectId && o.status = "completed" &&
    o.digestSha256 = new.page.rawSha256) &&
  (rows.others.objects.any fun o => o.objectId = new.textObjectId && o.status = "completed" &&
    o.digestSha256 = new.page.textSha256) &&
  (rows.indexes.any fun i => i.sourceVersionId = new.sourceVersionId) &&
  rows.bindings.any fun b => b.recordId = new.sourceId && b.versionId = new.sourceVersionId

def complete (c : CompleteCall) : Op WebsiteImportResult := do
  Program.finish (validatePage w c.page c.page.requestedUrl)
  Program.ensure (c.rawObjectId = objectId w c.claim "raw" ∧ c.textObjectId = objectId w c.claim "text")
    .storageUnavailable
  let policy ← policyFingerprint_ c.policy
  notebook_
  let record ← lockAttempt c.claim
  let record ← Program.require record .inProgress
  Program.ensure (record.fingerprint = c.claim.fingerprint ∧ record.state ∈ [.fetching, .storing])
    .inProgress
  Program.ensure (record.requestedUrl = c.page.requestedUrl ∧ record.policyVersion = c.policyVersion ∧
    record.policyFingerprint = policy) .fetchBlocked
  checkObject scope c.rawObjectId c.page.rawSha256 c.page.rawContent
  checkObject scope c.textObjectId c.page.textSha256 c.page.textContent
  Program.insert (fun _ => []) (fun rows => ∀ s ∈ rows.sources, s.recordId ≠ c.sourceId)
    (fun rows => { rows with sources := rows.sources ++ [⟨c.sourceId, "registered", 1⟩] })
    .storageUnavailable
  Program.insert (fun _ => []) (fun rows => ∀ v ∈ rows.versions, v.recordId ≠ c.sourceVersionId)
    (fun rows =>
      { rows with versions := rows.versions ++ [⟨c.sourceVersionId, c.sourceId, c.textObjectId⟩] })
    .storageUnavailable
  -- `ON CONFLICT DO NOTHING`
  Program.write (fun _ => []) fun rows =>
    if rows.bindings.any fun b => b.recordId = c.sourceId then rows
    else { rows with bindings := rows.bindings ++ [⟨c.sourceId, c.sourceVersionId⟩] }
  let text ← Program.require (readUtf8 c.page.textContent.length c.page.textContent) .fetch
  let chunks := websiteTextChunks w c.sourceVersionId text.length 0 text
  Program.ensure (chunks ≠ []) .textUnavailable
  Program.insert (fun _ => []) (fun rows => ∀ s ∈ rows.spans, s.recordId ∉ chunks.map (·.recordId))
    (fun rows => { rows with spans := rows.spans ++ chunks }) .storageUnavailable
  let index := "web-index-" ++ claimSuffix c.claim
  Program.insert (fun _ => []) (fun rows => ∀ i ∈ rows.indexes, i.recordId ≠ index)
    (fun rows => { rows with indexes := rows.indexes ++ [⟨index, c.sourceVersionId, chunks⟩] })
    .storageUnavailable
  transitionSource c.sourceId "security_check" 1
  transitionSource c.sourceId "processing" 2
  transitionSource c.sourceId "indexing" 3
  transitionSource c.sourceId "ready" 4
  let valid ← Program.read (bindingValid (c.snapshot policy))
  Program.ensure (valid = true) .storageUnavailable
  Program.insert (fun _ => []) (fun rows => ∀ s ∈ rows.snapshots, s.snapshotId ≠ c.snapshotId ∧
      s.sourceVersionId ≠ c.sourceVersionId)
    (fun rows => { rows with snapshots := rows.snapshots ++ [c.snapshot policy] }) .storageUnavailable
  let again ← policyFingerprint_ c.policyAgain
  Program.ensure (again = policy) .fetchBlocked
  Program.write (fun _ => []) fun rows => { rows with request := rows.request.map fun r =>
    { r with state := .completed, snapshotId := some c.snapshotId } }
  pure c.result

/-- A transaction: one of the repository, or one that changes what surrounds the import. -/
inductive ImportCall where
  | claim (c : ClaimCall)
  | markStoring (claim : WebsiteImportClaim)
  | complete (c : CompleteCall)
  | fail (claim : WebsiteImportClaim) (safeErrorCode : String)
  | change (write : Surroundings → Surroundings)

inductive ImportAnswer where
  | claimed (claim : WebsiteImportClaim)
  | completed (result : WebsiteImportResult)
  | done
  deriving DecidableEq

def ImportCall.program : ImportCall → Op ImportAnswer
  | .claim c => do
    let claimed ← WebsiteImport.claim w scope c
    pure (.claimed claimed)
  | .markStoring attempt => do
    WebsiteImport.markStoring attempt
    pure .done
  | .complete c => do
    let result ← WebsiteImport.complete w scope c
    pure (.completed result)
  | .fail attempt code => do
    WebsiteImport.fail attempt code
    pure .done
  | .change write => do
    Program.write (fun _ => []) fun rows => { rows with others := write rows.others }
    pure .done

/-- The transactions of any number of importers on a key that nobody has claimed yet. -/
def importDatabase {P : Type} [DecidableEq P] (others : Surroundings) :
    Machine (Cluster P ImportCall ImportRows ImportLock ImportError ImportAnswer)
      (Move P ImportCall ImportError) (Option (Ended ImportCall ImportError ImportAnswer)) :=
  readCommitted (ImportCall.program w scope) ⟨none, [], [], [], [], [], [], others⟩

end Calls

end DaonUser.WebsiteImport
