import DaonUser.Retention.Service

/-!
# Retention: what each call does

For every call, the checks it passes as a structure of named facts about the state before it
(`CancelAdmitted`, …), and a theorem that says what it then writes and that it writes nothing of interest
otherwise (`cancel_spec`, …). The invariants are proved from these; no later proof unfolds a call.
-/

namespace DaonUser.Retention

open Lib

variable {prim : Primitives}

/-! ## Reads -/

namespace Repository

variable {r : Repository} {context : RetentionContext}

theorem request_eq_ok {requestId : String} {request : DeletionRequest} :
    r.request context requestId = .ok request ↔
      r.requests.get? requestId = some request ∧
        request.context.tenantId = context.tenantId ∧
        request.context.workspaceId = context.workspaceId := by
  unfold Repository.request
  split
  · next h => simp [h]
  · next found h =>
    split
    · next hc =>
      simp only [reduceCtorEq, false_iff, h, Option.some.injEq]
      rintro ⟨rfl, ht, hw⟩
      exact hc.elim (· ht) (· hw)
    · next hc =>
      simp only [ne_eq, not_or, not_not] at hc
      simp only [Except.ok.injEq, h, Option.some.injEq]
      constructor
      · rintro rfl
        exact ⟨rfl, hc⟩
      · exact fun h => h.1

theorem hold_eq_ok {holdId : String} {hold : LegalHold} :
    r.hold context holdId = .ok hold ↔
      r.holds.get? holdId = some hold ∧
        hold.context.tenantId = context.tenantId ∧
        hold.context.workspaceId = context.workspaceId := by
  unfold Repository.hold
  split
  · next h => simp [h]
  · next found h =>
    split
    · next hc =>
      simp only [reduceCtorEq, false_iff, h, Option.some.injEq]
      rintro ⟨rfl, ht, hw⟩
      exact hc.elim (· ht) (· hw)
    · next hc =>
      simp only [ne_eq, not_or, not_not] at hc
      simp only [Except.ok.injEq, h, Option.some.injEq]
      constructor
      · rintro rfl
        exact ⟨rfl, hc⟩
      · exact fun h => h.1

theorem replay_eq_none {key : String × String × String} {fingerprint : String} :
    r.replay key fingerprint = .ok none ↔ r.idempotency.get? key = none := by
  unfold Repository.replay
  split
  · next h => simp [h]
  · next h => split <;> simp [h]

theorem mem_activeHoldsOn {tenantId workspaceId sourceId : String} {hold : LegalHold} :
    hold ∈ r.activeHoldsOn tenantId workspaceId sourceId ↔
      (∃ k, r.holds.get? k = some hold) ∧ hold.context.tenantId = tenantId ∧
        hold.context.workspaceId = workspaceId ∧ hold.sourceId = sourceId ∧
        hold.state = .active := by
  simp [activeHoldsOn, Dict.mem_values_iff]

end Repository

/-! ## Checks -/

/-- The checks of `_write`. -/
structure Writable (key : String) (expectedVersion : ExpectedVersion) : Prop where
  key : isSafeId key = true
  version : expectedVersion.wellFormed = true

/-- The checks of `_require_sensitive`. -/
structure Sensitive (context : RetentionContext) (verified : Bool) : Prop where
  admin : context.organizationAdmin = true
  verified : verified = true

section Checks

variable {α : Type} {s : System} {Q : Except RetentionError α → System → Prop}

theorem post_write {key : String} {expectedVersion : ExpectedVersion} {f : PUnit → Op α}
    (herror : ∀ e, ¬ Writable key expectedVersion → Q (.error e) s)
    (hok : Writable key expectedVersion → Call.Post (f ⟨⟩) s Q) :
    Call.Post (write key expectedVersion >>= f) s Q := by
  rw [write, Call.bind_assoc]
  refine Call.post_ensure (fun h => herror _ fun hw => h hw.key) fun hkey => ?_
  exact Call.post_ensure (fun h => herror _ fun hw => h hw.version) fun hv => hok ⟨hkey, hv⟩

theorem post_requireSensitive {context : RetentionContext} {verified : Bool} {f : PUnit → Op α}
    (herror : ∀ e, ¬ Sensitive context verified → Q (.error e) s)
    (hok : Sensitive context verified → Call.Post (f ⟨⟩) s Q) :
    Call.Post (requireSensitive context verified >>= f) s Q := by
  rw [requireSensitive, Call.bind_assoc]
  refine Call.post_ensure (fun h => herror _ fun hs => h hs.admin) fun hadmin => ?_
  exact Call.post_ensure (fun h => herror _ fun hs => h hs.verified) fun hv => hok ⟨hadmin, hv⟩

theorem post_requireVersion {version : Nat} {expectedVersion : ExpectedVersion}
    {f : PUnit → Op α} (herror : ∀ e, expectedVersion ≠ .version version → Q (.error e) s)
    (hok : expectedVersion = .version version → Call.Post (f ⟨⟩) s Q) :
    Call.Post (requireVersion version expectedVersion >>= f) s Q :=
  Call.post_ensure (herror _) hok

theorem post_replay {key : String × String × String} {fingerprint : String}
    {f : Option String → Op α}
    (herror : ∀ e, s.repository.idempotency.get? key ≠ none → Q (.error e) s)
    (hused : ∀ a, s.repository.idempotency.get? key ≠ none → Call.Post (f (some a)) s Q)
    (hfree : s.repository.idempotency.get? key = none → Call.Post (f none) s Q) :
    Call.Post (Call.query (·.repository.replay key fingerprint) >>= f) s Q := by
  by_cases hkey : s.repository.idempotency.get? key = none
  · refine Call.post_query (fun e h => ?_) fun a h => ?_
    · rw [Repository.replay_eq_none.2 hkey] at h
      cases h
    · rw [Repository.replay_eq_none.2 hkey] at h
      cases h
      exact hfree hkey
  · refine Call.post_query (fun e _ => herror e hkey) fun a h => ?_
    cases a with
    | none => exact absurd (Repository.replay_eq_none.1 h) hkey
    | some a => exact hused a hkey

end Checks

/-- The fingerprint of a `cancel`. -/
def cancelFingerprint (prim : Primitives) (requestId : String)
    (expectedVersion : ExpectedVersion) : String :=
  prim.fingerprint (.list [.str requestId, expectedVersion.dumped])

/-- The checks of `cancel`. -/
structure CancelAdmitted (context : RetentionContext) (requestId : String)
    (expectedVersion : ExpectedVersion) (key : String) (r : Repository)
    (request : DeletionRequest) : Prop where
  writable : Writable key expectedVersion
  found : r.request context requestId = .ok request
  fresh : r.idempotency.get? (context.actorId, "cancel", key) = none
  current : expectedVersion = .version request.version
  notStarted : request.purgeStarted = false
  notPurged : request.state ≠ .purged
  notCancelled : request.state ≠ .cancelled

/-- The request that `cancel` writes. -/
def DeletionRequest.cancelled (request : DeletionRequest) : DeletionRequest :=
  { request with state := .cancelled, sourceActive := true, version := request.version + 1 }

theorem cancel_spec (env : Env) (context : RetentionContext) (requestId : String)
    (expectedVersion : ExpectedVersion) (key : String) (s : System) :
    Call.Post (cancel prim env context requestId expectedVersion key) s fun outcome s' =>
      (∃ request, CancelAdmitted context requestId expectedVersion key s.repository request ∧
        outcome = .ok (view request.cancelled) ∧
        s' = s.mapRepository (settle prim request.cancelled (context.actorId, "cancel", key)
          (cancelFingerprint prim requestId expectedVersion) "deletion.cancelled"
          (env.clock 0))) ∨
      (s' = s ∧ ∀ v, outcome = .ok v → ∃ request,
        s.repository.requests.get? requestId = some request ∧ v = view request) := by
  have herror : ∀ e : RetentionError, s = s ∧ ∀ v, (Except.error e) = Except.ok v →
      ∃ request, s.repository.requests.get? requestId = some request ∧ v = view request :=
    fun e => ⟨rfl, fun _ h => by cases h⟩
  refine post_write (fun e _ => Or.inr (herror e)) fun writable => ?_
  refine Call.post_query (fun e _ => Or.inr (herror e)) fun request found => ?_
  refine post_replay (fun e _ => Or.inr (herror e)) (fun a _ => ?_) fun fresh => ?_
  · refine Or.inr ⟨rfl, fun v hv => ⟨request, (Repository.request_eq_ok.1 found).1, ?_⟩⟩
    exact (Except.ok.inj hv).symm
  · refine post_requireVersion (fun e _ => Or.inr (herror e)) fun current => ?_
    refine Call.post_ensure (fun _ => Or.inr (herror _)) fun ⟨hstarted, hpurged, hcancelled⟩ => ?_
    exact Or.inl ⟨request, ⟨writable, found, fresh, current, hstarted, hpurged, hcancelled⟩, rfl,
      rfl⟩

/-! ## `create_request`, `register_source` and `get_request` -/

/-- A call changed at most the registered scopes, the idempotency keys and the audit chain. -/
structure Unchanged (s s' : System) : Prop where
  requests : s'.repository.requests = s.repository.requests
  sourceRequests : s'.repository.sourceRequests = s.repository.sourceRequests
  holds : s'.repository.holds = s.repository.holds
  drawn : s'.drawn = s.drawn
  invocations : s'.invocations = s.invocations

theorem Unchanged.refl (s : System) : Unchanged s s := ⟨rfl, rfl, rfl, rfl, rfl⟩

def System.withScopes (scopes : Dict (String × String) String) (s : System) : System :=
  s.mapRepository fun r => { r with sourceScopes := scopes }

theorem Unchanged.withScopes (scopes : Dict (String × String) String) (s : System) :
    Unchanged s (s.withScopes scopes) := ⟨rfl, rfl, rfl, rfl, rfl⟩

theorem post_enterScope {context : RetentionContext} {sourceId : String} {s : System} {α : Type}
    {Q : Except RetentionError α → System → Prop} {f : PUnit → Op α}
    (herror : ∀ e, Q (.error e) s)
    (hok : ∀ scopes, Call.Post (f ⟨⟩) (s.withScopes scopes) Q) :
    Call.Post (enterScope context sourceId >>= f) s Q := by
  rw [enterScope, Call.bind_assoc]
  refine Call.post_query (fun _ h => by cases h) fun _ _ => ?_
  rw [Call.bind_assoc]
  exact Call.post_ensure (fun _ => herror _) fun _ => hok _

/-- `create_request` inserts a request for a source that had none, or changes nothing but the
registered scopes. -/
theorem createRequest_spec (service : Service) (env : Env) (context : RetentionContext)
    (sourceId : String) (inventory : Option (List DerivativeInput)) (key : String)
    (ifMatch : ExpectedVersion) (s : System) :
    Call.Post (createRequest prim service env context sourceId inventory key ifMatch) s
      fun _ s' =>
        (∃ scopes items fingerprint,
          s.repository.sourceRequests.get?
            (context.tenantId, context.workspaceId, sourceId) = none ∧
          s' = insertRequest prim env (context.actorId, "request", key) fingerprint
            (newRequest prim service env context sourceId items s) (s.withScopes scopes)) ∨
        Unchanged s s' := by
  have hsame : Unchanged s s := Unchanged.refl s
  refine post_write (fun _ _ => Or.inr hsame) fun _ => ?_
  refine Call.post_ensure (fun _ => Or.inr hsame) fun _ => ?_
  refine Call.post_query (fun _ _ => Or.inr hsame) fun items _ => ?_
  refine Call.post_ensure (fun _ => Or.inr hsame) fun _ => ?_
  refine Call.post_ensure (fun _ => Or.inr hsame) fun _ => ?_
  refine post_enterScope (fun _ => Or.inr hsame) fun scopes => ?_
  have hscopes : Unchanged s (s.withScopes scopes) := Unchanged.withScopes scopes s
  refine post_replay (fun _ _ => Or.inr hscopes) (fun _ _ => ?_) fun _ => ?_
  · exact Call.post_query (fun _ _ => Or.inr hscopes) fun _ _ => Or.inr hscopes
  · refine Call.post_get ?_
    refine Call.post_ensure (fun _ => Or.inr hscopes) fun hnone => ?_
    exact Or.inl ⟨scopes, items, _, hnone, rfl⟩

theorem registerSource_spec (context : RetentionContext) (sourceId : String) (s : System) :
    Call.Post (registerSource context sourceId) s fun _ s' => Unchanged s s' := by
  refine Call.post_ensure (fun _ => Unchanged.refl s) fun _ => ?_
  refine Call.post_query (fun _ h => by cases h) fun _ _ => ?_
  refine Call.post_ensure (fun _ => Unchanged.refl s) fun _ => ?_
  exact Unchanged.withScopes _ s

theorem getRequest_spec (context : RetentionContext) (requestId : String) (s : System) :
    Call.Post (getRequest context requestId) s fun _ s' => s' = s :=
  Call.post_query (fun _ _ => rfl) fun _ _ => rfl

/-! ## `apply_legal_hold` -/

def sensitiveFingerprint (prim : Primitives) (context : RetentionContext) (target : String)
    (expectedVersion : ExpectedVersion) : String :=
  prim.fingerprint (.list [.str target, expectedVersion.dumped, .str context.policyVersion])

/-- The checks of `apply_legal_hold` on a source whose request, if any, is `request`. -/
structure HoldAdmitted (context : RetentionContext) (sourceId : String)
    (expectedVersion : ExpectedVersion) (key : String) (verified : Bool) (r : Repository)
    (request : Option DeletionRequest) : Prop where
  writable : Writable key expectedVersion
  sensitive : Sensitive context verified
  safe : isSafeId sourceId = true
  fresh : r.idempotency.get? (context.actorId, "hold", key) = none
  inScope : r.sourceScopes.get? (context.tenantId, sourceId) = some context.workspaceId
  found : r.requestOfSource context sourceId = .ok request
  current : expectedVersion = .version (request.elim 1 fun request => request.version)

/-- The hold that `apply_legal_hold` inserts. -/
def newHold (prim : Primitives) (context : RetentionContext) (sourceId : String) (s : System) :
    LegalHold where
  holdId := prim.tokens.id "legal-hold" s.drawn
  context := context
  sourceId := sourceId

theorem applyLegalHold_spec (env : Env) (context : RetentionContext) (sourceId : String)
    (expectedVersion : ExpectedVersion) (key : String) (verified : Bool) (s : System) :
    Call.Post (applyLegalHold prim env context sourceId expectedVersion key verified) s
      fun _ s' =>
        (∃ request, HoldAdmitted context sourceId expectedVersion key verified s.repository
            request ∧
          s' = insertHold prim env (context.actorId, "hold", key)
            (sensitiveFingerprint prim context sourceId expectedVersion)
            (newHold prim context sourceId s) request s) ∨
        (s' = s ∧ ∀ request,
          ¬ HoldAdmitted context sourceId expectedVersion key verified s.repository request) := by
  refine post_write (fun _ h => Or.inr ⟨rfl, fun _ ha => h ha.writable⟩) fun writable => ?_
  refine post_requireSensitive (fun _ h => Or.inr ⟨rfl, fun _ ha => h ha.sensitive⟩)
    fun sensitive => ?_
  refine Call.post_ensure (fun h => Or.inr ⟨rfl, fun _ ha => h ha.safe⟩) fun safe => ?_
  refine post_replay (fun _ h => Or.inr ⟨rfl, fun _ ha => h ha.fresh⟩) (fun _ h => ?_)
    fun fresh => ?_
  · exact Call.post_query (fun _ _ => Or.inr ⟨rfl, fun _ ha => h ha.fresh⟩)
      fun _ _ => Or.inr ⟨rfl, fun _ ha => h ha.fresh⟩
  refine Call.post_get ?_
  refine Call.post_ensure (fun h => Or.inr ⟨rfl, fun _ ha => h ha.inScope⟩) fun inScope => ?_
  refine Call.post_query (fun _ h => Or.inr ⟨rfl, fun _ ha => ?_⟩) fun request found => ?_
  · rw [ha.found] at h
    cases h
  have hunique : ∀ request', HoldAdmitted context sourceId expectedVersion key verified
      s.repository request' → request' = request := by
    intro request' ha
    exact Except.ok.inj (ha.found.symm.trans found)
  cases request with
  | some request =>
    refine post_requireVersion (fun _ h => Or.inr ⟨rfl, fun _ ha => ?_⟩) fun current => ?_
    · cases hunique _ ha
      exact h ha.current
    · exact Or.inl ⟨some request, ⟨writable, sensitive, safe, fresh, inScope, found, current⟩, rfl⟩
  | none =>
    refine Call.post_ensure (fun h => Or.inr ⟨rfl, fun _ ha => ?_⟩) fun current => ?_
    · cases hunique _ ha
      exact h ha.current
    · exact Or.inl ⟨none, ⟨writable, sensitive, safe, fresh, inScope, found, current⟩, rfl⟩

/-- The checks of `release_legal_hold`. -/
structure ReleaseAdmitted (context : RetentionContext) (holdId : String)
    (expectedVersion : ExpectedVersion) (key : String) (verified : Bool) (r : Repository)
    (hold : LegalHold) : Prop where
  writable : Writable key expectedVersion
  sensitive : Sensitive context verified
  found : r.hold context holdId = .ok hold
  fresh : r.idempotency.get? (context.actorId, "release", key) = none
  current : expectedVersion = .version hold.version
  active : hold.state = .active

/-- The hold that `release_legal_hold` writes. -/
def LegalHold.released (hold : LegalHold) : LegalHold :=
  { hold with state := .released, version := hold.version + 1 }

theorem releaseLegalHold_spec (env : Env) (context : RetentionContext) (holdId : String)
    (expectedVersion : ExpectedVersion) (key : String) (verified : Bool) (s : System) :
    Call.Post (releaseLegalHold prim env context holdId expectedVersion key verified) s
      fun _ s' =>
        (∃ hold, ReleaseAdmitted context holdId expectedVersion key verified s.repository hold ∧
          ((∃ request, s.repository.requestOfSource context hold.sourceId = .ok request ∧
            s' = s.mapRepository fun r => releaseRequest prim env (context.actorId, "release", key)
              (sensitiveFingerprint prim context holdId expectedVersion) hold.holdId request
              (r.setHold hold.released)) ∨
          ∃ e, s.repository.requestOfSource context hold.sourceId = .error e ∧
            s' = s.mapRepository (·.setHold hold.released))) ∨
        (s' = s ∧ ∀ hold,
          ¬ ReleaseAdmitted context holdId expectedVersion key verified s.repository hold) := by
  refine post_write (fun _ h => Or.inr ⟨rfl, fun _ ha => h ha.writable⟩) fun writable => ?_
  refine post_requireSensitive (fun _ h => Or.inr ⟨rfl, fun _ ha => h ha.sensitive⟩)
    fun sensitive => ?_
  refine Call.post_query (fun _ h => Or.inr ⟨rfl, fun _ ha => ?_⟩) fun hold found => ?_
  · rw [ha.found] at h
    cases h
  refine post_replay (fun _ h => Or.inr ⟨rfl, fun _ ha => h ha.fresh⟩)
    (fun _ h => Or.inr ⟨rfl, fun _ ha => h ha.fresh⟩) fun fresh => ?_
  refine Call.post_ensure (fun h => Or.inr ⟨rfl, fun _ ha => ?_⟩) fun ⟨current, active⟩ => ?_
  · cases Except.ok.inj (ha.found.symm.trans found)
    exact h ⟨ha.current, ha.active⟩
  have admitted : ReleaseAdmitted context holdId expectedVersion key verified s.repository hold :=
    ⟨writable, sensitive, found, fresh, current, active⟩
  refine Call.post_modify ?_
  refine Call.post_query (fun e h => ?_) fun request h => ?_
  · exact Or.inl ⟨hold, admitted, Or.inr ⟨e, h, rfl⟩⟩
  · exact Or.inl ⟨hold, admitted, Or.inl ⟨request, h, rfl⟩⟩

/-- The request that `acknowledge_local_copy` writes. -/
def DeletionRequest.acknowledged (request : DeletionRequest) (referenceId : String)
    (item : CleanupItem) (evidence : String) : DeletionRequest :=
  { request with
    inventory := request.inventory.set referenceId
      { item with state := .completed, evidence := some evidence }
    version := request.version + 1 }

theorem acknowledgeLocalCopy_spec (env : Env) (context : RetentionContext)
    (requestId referenceId evidence : String) (expectedVersion : ExpectedVersion) (key : String)
    (s : System) :
    Call.Post (acknowledgeLocalCopy prim env context requestId referenceId evidence
      expectedVersion key) s fun _ s' =>
        (∃ request item fingerprint, s.repository.request context requestId = .ok request ∧
          request.inventory.get? referenceId = some item ∧
          s' = s.mapRepository (settle prim (request.acknowledged referenceId item evidence)
            (context.actorId, "ack", key) fingerprint "local_copy.access_revoked"
            (env.clock 0))) ∨
        s' = s := by
  refine post_write (fun _ _ => Or.inr rfl) fun _ => ?_
  refine Call.post_ensure (fun _ => Or.inr rfl) fun _ => ?_
  refine Call.post_query (fun _ _ => Or.inr rfl) fun request found => ?_
  refine post_replay (fun _ _ => Or.inr rfl) (fun _ _ => Or.inr rfl) fun _ => ?_
  refine post_requireVersion (fun _ _ => Or.inr rfl) fun _ => ?_
  refine Call.post_query (fun _ _ => Or.inr rfl) fun item hitem => ?_
  have hget : request.inventory.get? referenceId = some item := by
    revert hitem
    split
    · intro h
      cases h
    · next found' hget =>
      split
      · intro h
        cases h
      · intro h
        rw [hget, Except.ok.inj h]
  exact Or.inl ⟨request, item, _, found, hget, rfl⟩

/-! ## `purge` -/

/-- The checks of `purge` on the caller and the version. -/
structure PurgeAdmitted (context : RetentionContext) (requestId : String)
    (expectedVersion : ExpectedVersion) (key : String) (verified : Bool) (r : Repository)
    (request : DeletionRequest) : Prop where
  writable : Writable key expectedVersion
  sensitive : Sensitive context verified
  found : r.request context requestId = .ok request
  fresh : r.idempotency.get? (context.actorId, "purge", key) = none
  current : expectedVersion = .version request.version

/-- The checks of `purge` on the request: no hold, an elapsed grace period, fixtures only. -/
structure PurgeAllowed (service : Service) (env : Env) (r : Repository)
    (request : DeletionRequest) : Prop where
  unheld : r.activeHolds request = []
  elapsed : request.graceUntil ≤ env.clock 0
  fixtures : ∀ item ∈ request.inventory.values,
    startsWith item.value.referenceId service.fixturePrefix = true

/-- The request that `purge` writes when it meets an active hold. -/
def DeletionRequest.blocked (request : DeletionRequest) : DeletionRequest :=
  { request with state := .blockedByHold }

/-- `purge` blocks a held request, cleans up a request that passes its checks, and otherwise writes
nothing. -/
theorem purge_spec (service : Service) (env : Env) (context : RetentionContext)
    (requestId : String) (expectedVersion : ExpectedVersion) (key : String) (verified : Bool)
    (s : System) :
    Call.Post (purge prim service env context requestId expectedVersion key verified) s
      fun _ s' =>
        (∃ request, PurgeAdmitted context requestId expectedVersion key verified s.repository
            request ∧
          s.repository.activeHolds request ≠ [] ∧
          s' = s.mapRepository (·.setRequest request.blocked)) ∨
        (∃ request, PurgeAdmitted context requestId expectedVersion key verified s.repository
            request ∧
          PurgeAllowed service env s.repository request ∧
          s' = runPurge prim env context verified (context.actorId, "purge", key)
            (sensitiveFingerprint prim context requestId expectedVersion) request s) ∨
        (s' = s ∧ ∀ request,
          PurgeAdmitted context requestId expectedVersion key verified s.repository request →
          s.repository.activeHolds request = [] ∧
            ¬ PurgeAllowed service env s.repository request) := by
  refine post_write (fun _ h => Or.inr (Or.inr ⟨rfl, fun _ ha => absurd ha.writable h⟩))
    fun writable => ?_
  refine post_requireSensitive
    (fun _ h => Or.inr (Or.inr ⟨rfl, fun _ ha => absurd ha.sensitive h⟩)) fun sensitive => ?_
  refine Call.post_query (fun _ h => Or.inr (Or.inr ⟨rfl, fun _ ha => ?_⟩)) fun request found => ?_
  · rw [ha.found] at h
    cases h
  have hunique : ∀ request', PurgeAdmitted context requestId expectedVersion key verified
      s.repository request' → request' = request := by
    intro request' ha
    exact Except.ok.inj (ha.found.symm.trans found)
  refine post_replay (fun _ h => Or.inr (Or.inr ⟨rfl, fun _ ha => absurd ha.fresh h⟩))
    (fun _ h => Or.inr (Or.inr ⟨rfl, fun _ ha => absurd ha.fresh h⟩)) fun fresh => ?_
  refine post_requireVersion (fun _ h => Or.inr (Or.inr ⟨rfl, fun _ ha => ?_⟩)) fun current => ?_
  · cases hunique _ ha
    exact absurd ha.current h
  have admitted : PurgeAdmitted context requestId expectedVersion key verified s.repository
      request := ⟨writable, sensitive, found, fresh, current⟩
  refine Call.post_query (fun _ h => by cases h) fun holds hholds => ?_
  cases Except.ok.inj hholds
  rcases hactive : s.repository.activeHolds request with _ | ⟨hold, holds⟩
  · have refused : ¬ PurgeAllowed service env s.repository request →
        ∀ request', PurgeAdmitted context requestId expectedVersion key verified s.repository
          request' → s.repository.activeHolds request' = [] ∧
            ¬ PurgeAllowed service env s.repository request' := by
      intro hn request' ha
      cases hunique _ ha
      exact ⟨hactive, hn⟩
    refine Call.post_ensure
      (fun h => Or.inr (Or.inr ⟨rfl, refused fun ha => h ha.elapsed⟩)) fun elapsed => ?_
    refine Call.post_ensure
      (fun h => Or.inr (Or.inr ⟨rfl, refused fun ha => h ha.fixtures⟩)) fun fixtures => ?_
    exact Or.inr (Or.inl ⟨request, admitted, ⟨hactive, elapsed, fixtures⟩, rfl⟩)
  · refine Or.inl ⟨request, admitted, ?_, rfl⟩
    rw [hactive]
    exact List.cons_ne_nil _ _

/-- What one call can answer and do to the system. -/
inductive Effect (prim : Primitives) (s : System) (i : Input) : Outcome → System → Prop where
  | unchanged {o : Outcome} {s' : System} (same : Unchanged s s') : Effect prim s i o s'
  | requested {o : Outcome} {sourceId key fingerprint : String} {items : List DerivativeInput}
      {scopes : Dict (String × String) String}
      (none : s.repository.sourceRequests.get?
        (i.context.tenantId, i.context.workspaceId, sourceId) = none) :
      Effect prim s i o (insertRequest prim i.env (i.context.actorId, "request", key) fingerprint
        (newRequest prim i.service i.env i.context sourceId items s) (s.withScopes scopes))
  | cancelled {requestId key fingerprint : String} {expectedVersion : ExpectedVersion}
      {request : DeletionRequest}
      (operation : i.operation = .cancel requestId expectedVersion key)
      (admitted : CancelAdmitted i.context requestId expectedVersion key s.repository request) :
      Effect prim s i (.ok (.deletion (view request.cancelled)))
        (s.mapRepository (settle prim request.cancelled (i.context.actorId, "cancel", key)
          fingerprint "deletion.cancelled" (i.env.clock 0)))
  | held {o : Outcome} {sourceId key fingerprint : String} {expectedVersion : ExpectedVersion}
      {verified : Bool} {request : Option DeletionRequest}
      (operation : i.operation = .applyLegalHold sourceId expectedVersion key verified)
      (admitted : HoldAdmitted i.context sourceId expectedVersion key verified s.repository
        request) :
      Effect prim s i o (insertHold prim i.env (i.context.actorId, "hold", key) fingerprint
        (newHold prim i.context sourceId s) request s)
  | released {o : Outcome} {holdId key fingerprint : String} {expectedVersion : ExpectedVersion}
      {verified : Bool} {hold : LegalHold} {request : Option DeletionRequest}
      (operation : i.operation = .releaseLegalHold holdId expectedVersion key verified)
      (admitted : ReleaseAdmitted i.context holdId expectedVersion key verified s.repository hold)
      (found : s.repository.requestOfSource i.context hold.sourceId = .ok request) :
      Effect prim s i o (s.mapRepository fun r => releaseRequest prim i.env
        (i.context.actorId, "release", key) fingerprint hold.holdId request
        (r.setHold hold.released))
  | orphaned {o : Outcome} {hold : LegalHold} {e : RetentionError}
      (lost : s.repository.requestOfSource i.context hold.sourceId = .error e) :
      Effect prim s i o (s.mapRepository (·.setHold hold.released))
  | acknowledged {o : Outcome} {requestId referenceId evidence key fingerprint : String}
      {request : DeletionRequest} {item : CleanupItem}
      (found : s.repository.request i.context requestId = .ok request)
      (listed : request.inventory.get? referenceId = some item) :
      Effect prim s i o (s.mapRepository (settle prim
        (request.acknowledged referenceId item evidence) (i.context.actorId, "ack", key) fingerprint
        "local_copy.access_revoked" (i.env.clock 0)))
  | blocked {o : Outcome} {requestId key : String} {expectedVersion : ExpectedVersion}
      {verified : Bool} {request : DeletionRequest}
      (operation : i.operation = .purge requestId expectedVersion key verified)
      (admitted : PurgeAdmitted i.context requestId expectedVersion key verified s.repository
        request)
      (active : s.repository.activeHolds request ≠ []) :
      Effect prim s i o (s.mapRepository (·.setRequest request.blocked))
  | purged {o : Outcome} {requestId key fingerprint : String} {expectedVersion : ExpectedVersion}
      {verified : Bool} {request : DeletionRequest}
      (operation : i.operation = .purge requestId expectedVersion key verified)
      (admitted : PurgeAdmitted i.context requestId expectedVersion key verified s.repository
        request)
      (allowed : PurgeAllowed i.service i.env s.repository request) :
      Effect prim s i o (runPurge prim i.env i.context verified
        (i.context.actorId, "purge", key) fingerprint request s)

theorem effect_next (prim : Primitives) (s : System) (i : Input) :
    Effect prim s i ((machine prim).answer s i) ((machine prim).next s i) := by
  obtain ⟨service, env, context, operation⟩ := i
  have key : Call.Post (serve prim ⟨service, env, context, operation⟩) s
      (Effect prim s ⟨service, env, context, operation⟩) := by
    cases operation with
    | createRequest sourceId inventory key ifMatch =>
      refine Call.post_map ((createRequest_spec ..).mono ?_)
      rintro _ _ (⟨scopes, items, fingerprint, hnone, rfl⟩ | h)
      · exact .requested hnone
      · exact .unchanged h
    | getRequest requestId =>
      refine Call.post_map ((getRequest_spec ..).mono ?_)
      rintro _ _ rfl
      exact .unchanged (Unchanged.refl _)
    | registerSource sourceId =>
      exact Call.post_map ((registerSource_spec ..).mono fun _ _ h => .unchanged h)
    | cancel requestId expectedVersion key =>
      refine Call.post_map ((cancel_spec ..).mono ?_)
      rintro _ _ (⟨request, admitted, rfl, rfl⟩ | ⟨rfl, -⟩)
      · exact .cancelled rfl admitted
      · exact .unchanged (Unchanged.refl _)
    | applyLegalHold sourceId expectedVersion key verified =>
      refine Call.post_map ((applyLegalHold_spec ..).mono ?_)
      rintro _ _ (⟨request, admitted, rfl⟩ | ⟨rfl, -⟩)
      · exact .held rfl admitted
      · exact .unchanged (Unchanged.refl _)
    | releaseLegalHold holdId expectedVersion key verified =>
      refine Call.post_map ((releaseLegalHold_spec ..).mono ?_)
      rintro _ _ (⟨hold, admitted, ⟨request, found, rfl⟩ | ⟨e, lost, rfl⟩⟩ | ⟨rfl, -⟩)
      · exact .released rfl admitted found
      · exact .orphaned lost
      · exact .unchanged (Unchanged.refl _)
    | acknowledgeLocalCopy requestId referenceId evidence expectedVersion key =>
      refine Call.post_map ((acknowledgeLocalCopy_spec ..).mono ?_)
      rintro _ _ (⟨request, item, fingerprint, found, listed, rfl⟩ | rfl)
      · exact .acknowledged found listed
      · exact .unchanged (Unchanged.refl _)
    | purge requestId expectedVersion key verified =>
      refine Call.post_map ((purge_spec ..).mono ?_)
      rintro _ _ (⟨request, admitted, active, rfl⟩ | ⟨request, admitted, allowed, rfl⟩ |
        ⟨rfl, -⟩)
      · exact .blocked rfl admitted active
      · exact .purged rfl admitted allowed
      · exact .unchanged (Unchanged.refl _)
  exact key

section Admitted

variable {s : System} {i : Input} {expectedVersion : ExpectedVersion} {key : String}
  {verified : Bool}

theorem next_of_hold (prim : Primitives) {sourceId : String} {request : Option DeletionRequest}
    (operation : i.operation = .applyLegalHold sourceId expectedVersion key verified)
    (admitted : HoldAdmitted i.context sourceId expectedVersion key verified s.repository
      request) :
    (machine prim).next s i = insertHold prim i.env (i.context.actorId, "hold", key)
      (sensitiveFingerprint prim i.context sourceId expectedVersion)
      (newHold prim i.context sourceId s) request s := by
  have h : Call.Post (serve prim i) s fun _ s' => s' = insertHold prim i.env
      (i.context.actorId, "hold", key)
      (sensitiveFingerprint prim i.context sourceId expectedVersion)
      (newHold prim i.context sourceId s) request s := by
    rw [serve, operation]
    refine Call.post_map ((applyLegalHold_spec ..).mono ?_)
    rintro _ _ (⟨request', admitted', rfl⟩ | ⟨-, refused⟩)
    · rw [Except.ok.inj (admitted'.found.symm.trans admitted.found)]
    · exact absurd admitted (refused request)
  exact h

theorem next_of_release (prim : Primitives) {holdId : String} {hold : LegalHold} {request : Option DeletionRequest}
    (operation : i.operation = .releaseLegalHold holdId expectedVersion key verified)
    (admitted : ReleaseAdmitted i.context holdId expectedVersion key verified s.repository hold)
    (found : s.repository.requestOfSource i.context hold.sourceId = .ok request) :
    (machine prim).next s i = s.mapRepository fun r => releaseRequest prim i.env
      (i.context.actorId, "release", key)
      (sensitiveFingerprint prim i.context holdId expectedVersion) hold.holdId request
      (r.setHold hold.released) := by
  have h : Call.Post (serve prim i) s fun _ s' => s' = s.mapRepository fun r =>
      releaseRequest prim i.env (i.context.actorId, "release", key)
        (sensitiveFingerprint prim i.context holdId expectedVersion) hold.holdId request
        (r.setHold hold.released) := by
    rw [serve, operation]
    refine Call.post_map ((releaseLegalHold_spec ..).mono ?_)
    rintro _ _ (⟨hold', admitted', h⟩ | ⟨-, refused⟩)
    · cases Except.ok.inj (admitted'.found.symm.trans admitted.found)
      rcases h with ⟨request', found', rfl⟩ | ⟨e, lost, -⟩
      · rw [Except.ok.inj (found'.symm.trans found)]
      · rw [found] at lost
        cases lost
    · exact absurd admitted (refused hold)
  exact h

theorem next_of_purge (prim : Primitives) {requestId : String} {request : DeletionRequest}
    (operation : i.operation = .purge requestId expectedVersion key verified)
    (admitted : PurgeAdmitted i.context requestId expectedVersion key verified s.repository
      request)
    (acts : s.repository.activeHolds request ≠ [] ∨
      PurgeAllowed i.service i.env s.repository request) :
    (machine prim).next s i = s.mapRepository (·.setRequest request.blocked) ∨
    PurgeAllowed i.service i.env s.repository request ∧
      (machine prim).next s i = runPurge prim i.env i.context verified
        (i.context.actorId, "purge", key)
        (sensitiveFingerprint prim i.context requestId expectedVersion) request s := by
  have h : Call.Post (serve prim i) s fun _ s' =>
      s' = s.mapRepository (·.setRequest request.blocked) ∨
      PurgeAllowed i.service i.env s.repository request ∧
        s' = runPurge prim i.env i.context verified (i.context.actorId, "purge", key)
          (sensitiveFingerprint prim i.context requestId expectedVersion) request s := by
    rw [serve, operation]
    refine Call.post_map ((purge_spec ..).mono ?_)
    rintro _ _ (⟨request', admitted', -, rfl⟩ | ⟨request', admitted', allowed, rfl⟩ |
      ⟨-, refused⟩)
    · rw [Except.ok.inj (admitted'.found.symm.trans admitted.found)]
      exact Or.inl rfl
    · cases Except.ok.inj (admitted'.found.symm.trans admitted.found)
      exact Or.inr ⟨allowed, rfl⟩
    · obtain ⟨hheld, hallowed⟩ := refused request admitted
      exact acts.elim (absurd hheld) fun h => absurd h hallowed
  exact h

end Admitted

end DaonUser.Retention
