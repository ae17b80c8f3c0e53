import DaonUser.Retention.Terminal

/-!
# Retention: calls that raise

No call is a transaction. `cancel`, `apply_legal_hold` and `acknowledge_local_copy` write last, and
`release_legal_hold` meets a request that it can read. Two calls write before they raise: `create_request`
registers its source before it looks at its idempotency key, and `purge` blocks a request that is held.
`refused_call_keeps_iff` says when one of these writes changes something.
-/

namespace DaonUser.Retention

open Lib

variable {prim : Primitives}

/-! ## Calls that write last -/

/-- A call that raised has left the system as it was. -/
def KeptOnRaise {α : Type} (s : System) (outcome : Except RetentionError α) (s' : System) : Prop :=
  ∀ e, outcome = .error e → s' = s

section Kept

variable {α : Type} {s s' : System}

theorem kept_same {outcome : Except RetentionError α} : KeptOnRaise s outcome s := fun _ _ => rfl

theorem kept_ok {a : α} : KeptOnRaise s (.ok a) s' := fun _ h => by cases h

end Kept

section Calls

variable {env : Env} {context : RetentionContext} {sourceId requestId holdId referenceId evidence key : String}
  {expectedVersion : ExpectedVersion} {verified : Bool} {s : System}

theorem cancel_kept :
    Call.Post (cancel prim env context requestId expectedVersion key) s (KeptOnRaise s) := by
  refine (cancel_spec env context requestId expectedVersion key s).mono fun outcome s' h => ?_
  rcases h with ⟨request, -, rfl, -⟩ | ⟨rfl, -⟩
  · exact kept_ok
  · exact kept_same

theorem applyLegalHold_kept :
    Call.Post (applyLegalHold prim env context sourceId expectedVersion key verified) s
      (KeptOnRaise s) := by
  refine post_write (fun _ _ => kept_same) fun _ => ?_
  refine post_requireSensitive (fun _ _ => kept_same) fun _ => ?_
  refine Call.post_ensure (fun _ => kept_same) fun _ => ?_
  refine post_replay (fun _ _ => kept_same) (fun _ _ => ?_) fun _ => ?_
  · exact Call.post_query (fun _ _ => kept_same) fun _ _ => kept_same
  refine Call.post_get ?_
  refine Call.post_ensure (fun _ => kept_same) fun _ => ?_
  refine Call.post_query (fun _ _ => kept_same) fun request _ => ?_
  cases request with
  | some request => exact post_requireVersion (fun _ _ => kept_same) fun _ => kept_ok
  | none => exact Call.post_ensure (fun _ => kept_same) fun _ => kept_ok

theorem acknowledgeLocalCopy_kept :
    Call.Post (acknowledgeLocalCopy prim env context requestId referenceId evidence expectedVersion key) s
      (KeptOnRaise s) := by
  refine post_write (fun _ _ => kept_same) fun _ => ?_
  refine Call.post_ensure (fun _ => kept_same) fun _ => ?_
  refine Call.post_query (fun _ _ => kept_same) fun request _ => ?_
  refine post_replay (fun _ _ => kept_same) (fun _ _ => kept_same) fun _ => ?_
  refine post_requireVersion (fun _ _ => kept_same) fun _ => ?_
  exact Call.post_query (fun _ _ => kept_same) fun _ _ => kept_ok

theorem releaseLegalHold_kept (h : Indexed prim s) :
    Call.Post (releaseLegalHold prim env context holdId expectedVersion key verified) s
      (KeptOnRaise s) := by
  refine post_write (fun _ _ => kept_same) fun _ => ?_
  refine post_requireSensitive (fun _ _ => kept_same) fun _ => ?_
  refine Call.post_query (fun _ _ => kept_same) fun hold _ => ?_
  refine post_replay (fun _ _ => kept_same) (fun _ _ => kept_same) fun _ => ?_
  refine Call.post_ensure (fun _ => kept_same) fun _ => ?_
  refine Call.post_modify (Call.post_query (fun e hlost => ?_) fun _ _ => kept_ok)
  have hfound : s.repository.requestOfSource context hold.sourceId = .error e := hlost
  rcases h.requestOfSource_eq with ⟨hnone, -⟩ | ⟨request, hsome, -⟩
  · cases hnone.symm.trans hfound
  · cases hsome.symm.trans hfound

end Calls

/-! ## Registered sources -/

/-- A source that has a request is registered. -/
def Registered (s : System) : Prop :=
  ∀ tenantId workspaceId sourceId requestId,
    s.repository.sourceRequests.get? (tenantId, workspaceId, sourceId) = some requestId →
      s.repository.sourceScopes.get? (tenantId, sourceId) = some workspaceId

/-- The source index and the registered scopes are as they were. -/
structure SameIndex (s s' : System) : Prop where
  requests : s'.repository.sourceRequests = s.repository.sourceRequests
  scopes : s'.repository.sourceScopes = s.repository.sourceScopes

section Registered

variable {service : Service} {env : Env} {context : RetentionContext} {key : String × String × String}
  {fingerprint action holdId : String} {s s' : System}

theorem SameIndex.registered (h : SameIndex s s') (hs : Registered s) : Registered s' := by
  intro tenantId workspaceId sourceId requestId hrequest
  rw [h.requests] at hrequest
  rw [h.scopes]
  exact hs _ _ _ _ hrequest

theorem SameIndex.refl (s : System) : SameIndex s s := ⟨rfl, rfl⟩

theorem sameIndex_insertHold {hold : LegalHold} {request : Option DeletionRequest} :
    SameIndex s (insertHold prim env key fingerprint hold request s) := by
  cases request with
  | none => exact ⟨rfl, rfl⟩
  | some request => exact ⟨rfl, rfl⟩

theorem sameIndex_releaseRequest {hold : LegalHold} {request : Option DeletionRequest} :
    SameIndex s (s.mapRepository fun r =>
      releaseRequest prim env key fingerprint holdId request (r.setHold hold)) := by
  cases request with
  | none => exact ⟨rfl, rfl⟩
  | some request =>
    by_cases hactive : (s.repository.setHold hold).activeHolds request = []
    · constructor <;> simp only [System.mapRepository, releaseRequest, if_pos hactive] <;> rfl
    · constructor <;> simp only [System.mapRepository, releaseRequest, if_neg hactive] <;> rfl

theorem post_enterScope_of {α : Type} {sourceId : String} {Q : Except RetentionError α → System → Prop}
    {f : PUnit → Op α}
    (herror : ∀ e workspaceId, s.repository.sourceScopes.get? (context.tenantId, sourceId) = some workspaceId →
      workspaceId ≠ context.workspaceId → Q (.error e) s)
    (hok : s.repository.sourceScopes.get? (context.tenantId, sourceId) = none ∨
      s.repository.sourceScopes.get? (context.tenantId, sourceId) = some context.workspaceId →
      Call.Post (f ⟨⟩) (s.withScopes
        (s.repository.sourceScopes.set (context.tenantId, sourceId) context.workspaceId)) Q) :
    Call.Post (enterScope context sourceId >>= f) s Q := by
  rw [enterScope, Call.bind_assoc]
  refine Call.post_query (fun _ h => by cases h) fun registered hregistered => ?_
  obtain rfl := Except.ok.inj hregistered
  rw [Call.bind_assoc]
  refine Call.post_ensure (fun h => ?_) fun h => hok h
  obtain ⟨hsome, hother⟩ := not_or.1 h
  obtain ⟨workspaceId, hworkspace⟩ := Option.ne_none_iff_exists'.1 hsome
  exact herror _ workspaceId hworkspace fun heq => hother (heq ▸ hworkspace)

theorem Registered.entered {sourceId : String} (hs : Registered s)
    (hscope : s.repository.sourceScopes.get? (context.tenantId, sourceId) = none ∨
      s.repository.sourceScopes.get? (context.tenantId, sourceId) = some context.workspaceId) :
    Registered (s.withScopes
      (s.repository.sourceScopes.set (context.tenantId, sourceId) context.workspaceId)) := by
  intro tenantId workspaceId sourceId' requestId hrequest
  have hold := hs tenantId workspaceId sourceId' requestId hrequest
  change (s.repository.sourceScopes.set _ _).get? _ = _
  rw [Dict.get?_set]
  split
  · next heq =>
    rw [heq, hold] at hscope
    rcases hscope with hnone | hsome
    · cases hnone
    · exact hsome.symm
  · exact hold

end Registered

/-! ## Requests -/

/-- The checks that `create_request` makes before it registers its source. -/
structure CreateChecked (env : Env) (sourceId : String) (inventory : Option (List DerivativeInput))
    (key : String) (ifMatch : ExpectedVersion) (items : List DerivativeInput) : Prop where
  writable : Writable key ifMatch
  safe : isSafeId sourceId = true
  provided : inventoryOr env inventory = .ok items
  anyVersion : ifMatch = .any
  nonempty : items ≠ []
  distinct : (byReference items).entries.length = items.length
  kinds : ∀ kind ∈ Kind.all, kind ∈ items.map (·.kind)

/-- `create_request` registers its source, which was not registered, and then looks at a key that is used. -/
def EntersFirst (s : System) (env : Env) (context : RetentionContext) (sourceId : String)
    (inventory : Option (List DerivativeInput)) (key : String) (ifMatch : ExpectedVersion) : Prop :=
  (∃ items, CreateChecked env sourceId inventory key ifMatch items) ∧
    s.repository.sourceScopes.get? (context.tenantId, sourceId) = none ∧
    s.repository.idempotency.get? (context.actorId, "request", key) ≠ none

/-- What a `create_request` that raises leaves. -/
inductive Refused (s : System) (env : Env) (context : RetentionContext) (sourceId : String)
    (inventory : Option (List DerivativeInput)) (key : String) (ifMatch : ExpectedVersion) : System → Prop where
  | unentered (unused : ¬EntersFirst s env context sourceId inventory key ifMatch) :
      Refused s env context sourceId inventory key ifMatch s
  | entered (checked : ∃ items, CreateChecked env sourceId inventory key ifMatch items)
      (scope : s.repository.sourceScopes.get? (context.tenantId, sourceId) = none ∨
        s.repository.sourceScopes.get? (context.tenantId, sourceId) = some context.workspaceId)
      (used : s.repository.sourceScopes.get? (context.tenantId, sourceId) = none →
        s.repository.idempotency.get? (context.actorId, "request", key) ≠ none) :
      Refused s env context sourceId inventory key ifMatch (s.withScopes
        (s.repository.sourceScopes.set (context.tenantId, sourceId) context.workspaceId))

section Create

variable {service : Service} {env : Env} {context : RetentionContext} {sourceId : String}
  {inventory : Option (List DerivativeInput)} {key : String} {ifMatch : ExpectedVersion} {s : System}

theorem Registered.inserted {items : List DerivativeInput} {k : String × String × String}
    {fingerprint : String} (hs : Registered s)
    (hscope : s.repository.sourceScopes.get? (context.tenantId, sourceId) = some context.workspaceId) :
    Registered (insertRequest prim env k fingerprint
      (newRequest prim service env context sourceId items s) s) := by
  intro tenantId workspaceId sourceId' requestId hrequest
  change (s.repository.sourceRequests.set (context.tenantId, context.workspaceId, sourceId) _).get? _ = _
    at hrequest
  change s.repository.sourceScopes.get? _ = _
  rw [Dict.get?_set] at hrequest
  split at hrequest
  · next heq =>
    obtain ⟨rfl, rfl, rfl⟩ : context.tenantId = tenantId ∧ context.workspaceId = workspaceId ∧
        sourceId = sourceId' := by simpa using heq
    exact hscope
  · exact hs _ _ _ _ hrequest

theorem createRequest_refused (hs : Registered s) :
    Call.Post (createRequest prim service env context sourceId inventory key ifMatch) s fun outcome s' =>
      Registered s' ∧ ∀ e, outcome = .error e →
        Refused s env context sourceId inventory key ifMatch s' := by
  -- before the source is registered
  have hearly : ∀ e : RetentionError, (∀ items, ¬CreateChecked env sourceId inventory key ifMatch items) →
      Registered s ∧ ∀ e', (Except.error e : Except RetentionError DeletionRequestView) = .error e' →
        Refused s env context sourceId inventory key ifMatch s := by
    intro e h
    refine ⟨hs, fun e' _ => .unentered fun hfirst => ?_⟩
    obtain ⟨⟨items, hchecked⟩, -⟩ := hfirst
    exact h items hchecked
  refine post_write (fun e h => hearly e fun _ hc => h hc.writable) fun writable => ?_
  refine Call.post_ensure (fun h => hearly _ fun _ hc => h hc.safe) fun safe => ?_
  refine Call.post_query (fun e h => hearly _ fun _ hc => ?_) fun items provided => ?_
  · rw [hc.provided] at h
    cases h
  have hunique : ∀ items', CreateChecked env sourceId inventory key ifMatch items' → items' = items :=
    fun items' hc => Except.ok.inj (hc.provided.symm.trans provided)
  refine Call.post_ensure (fun h => hearly _ fun items' hc => ?_) fun hany => ?_
  · obtain rfl := hunique _ hc
    exact h ⟨hc.anyVersion, hc.nonempty⟩
  refine Call.post_ensure (fun h => hearly _ fun items' hc => ?_) fun hkinds => ?_
  · obtain rfl := hunique _ hc
    exact h ⟨hc.distinct, hc.kinds⟩
  have hchecked : ∃ items, CreateChecked env sourceId inventory key ifMatch items :=
    ⟨items, writable, safe, provided, hany.1, hany.2, hkinds.1, hkinds.2⟩
  refine post_enterScope_of (fun e workspaceId hother _ => ?_) fun hscope => ?_
  · refine ⟨hs, fun _ _ => .unentered fun hfirst => ?_⟩
    have hnone := hfirst.2.1
    rw [hother] at hnone
    cases hnone
  -- the source is registered
  have hentered := hs.entered hscope
  refine post_replay (fun e hused => ?_) (fun replay hused => ?_) fun hfree => ?_
  · exact ⟨hentered, fun _ _ => .entered hchecked hscope fun _ => hused⟩
  · refine Call.post_query (fun e _ => ?_) fun request _ => ?_
    · exact ⟨hentered, fun _ _ => .entered hchecked hscope fun _ => hused⟩
    · exact ⟨hentered, fun _ h => by cases h⟩
  refine Call.post_get ?_
  refine Call.post_ensure (fun hactive => ?_) fun hnone => ?_
  · refine ⟨hentered, fun _ _ => .entered hchecked hscope fun hunregistered => ?_⟩
    obtain ⟨requestId, hrequest⟩ := Option.ne_none_iff_exists'.1 hactive
    have hregistered := hs _ _ _ _ hrequest
    rw [hunregistered] at hregistered
    cases hregistered
  · exact ⟨hentered.inserted (Dict.get?_set_self _ _ _), fun _ h => by cases h⟩

theorem Refused.keeps_iff {s' : System} (h : Refused s env context sourceId inventory key ifMatch s') :
    s'.repository = s.repository ↔ ¬EntersFirst s env context sourceId inventory key ifMatch := by
  cases h with
  | unentered unused => exact iff_of_true rfl unused
  | entered checked scope used =>
    constructor
    · intro hsame hfirst
      have hscopes := congrArg (fun r => (Repository.sourceScopes r).get? (context.tenantId, sourceId)) hsame
      change (s.repository.sourceScopes.set _ _).get? _ = s.repository.sourceScopes.get? _ at hscopes
      rw [Dict.get?_set_self, hfirst.2.1] at hscopes
      cases hscopes
    · intro hnot
      rcases scope with hnone | hsome
      · exact absurd ⟨checked, hnone, used hnone⟩ hnot
      · rw [Dict.set_of_get? hsome]
        rfl

end Create

/-- `purge` passes its checks on the caller and the version, and finds a held request that is not blocked. -/
def BlocksFirst (s : System) (context : RetentionContext) (requestId : String)
    (expectedVersion : ExpectedVersion) (key : String) (verified : Bool) : Prop :=
  ∃ request, PurgeAdmitted context requestId expectedVersion key verified s.repository request ∧
    s.repository.activeHolds request ≠ [] ∧ request.state ≠ .blockedByHold

section Purge

variable {service : Service} {env : Env} {context : RetentionContext} {requestId key : String}
  {expectedVersion : ExpectedVersion} {verified : Bool} {s : System}

theorem purge_refused (h : Indexed prim s) :
    Call.Post (purge prim service env context requestId expectedVersion key verified) s fun outcome s' =>
      ∀ e, outcome = .error e →
        (s'.repository = s.repository ↔ ¬BlocksFirst s context requestId expectedVersion key verified) := by
  have hsame : ∀ {outcome : Except RetentionError DeletionRequestView},
      (∀ request, PurgeAdmitted context requestId expectedVersion key verified s.repository request →
        s.repository.activeHolds request = []) → ∀ e, outcome = .error e →
        (s.repository = s.repository ↔ ¬BlocksFirst s context requestId expectedVersion key verified) := by
    intro outcome hclear e _
    refine iff_of_true rfl fun hblocks => ?_
    obtain ⟨request, hadmitted, hactive, -⟩ := hblocks
    exact hactive (hclear request hadmitted)
  refine post_write (fun _ hw => hsame fun _ ha => absurd ha.writable hw) fun writable => ?_
  refine post_requireSensitive (fun _ hw => hsame fun _ ha => absurd ha.sensitive hw) fun sensitive => ?_
  refine Call.post_query (fun _ hw => hsame fun _ ha => ?_) fun request found => ?_
  · rw [ha.found] at hw
    cases hw
  have hunique : ∀ request', PurgeAdmitted context requestId expectedVersion key verified
      s.repository request' → request' = request := fun request' ha =>
    Except.ok.inj (ha.found.symm.trans found)
  refine post_replay (fun _ hw => hsame fun _ ha => absurd ha.fresh hw)
    (fun _ hw => hsame fun _ ha => absurd ha.fresh hw) fun fresh => ?_
  refine post_requireVersion (fun _ hw => hsame fun _ ha => ?_) fun current => ?_
  · cases hunique _ ha
    exact absurd ha.current hw
  have admitted : PurgeAdmitted context requestId expectedVersion key verified s.repository request :=
    ⟨writable, sensitive, found, fresh, current⟩
  refine Call.post_query (fun _ h => by cases h) fun holds hholds => ?_
  cases Except.ok.inj hholds
  rcases hactive : s.repository.activeHolds request with _ | ⟨hold, holds⟩
  · have hclear : ∀ request', PurgeAdmitted context requestId expectedVersion key verified
        s.repository request' → s.repository.activeHolds request' = [] := by
      intro request' ha
      cases hunique _ ha
      exact hactive
    refine Call.post_ensure (fun _ => hsame hclear) fun _ => ?_
    exact Call.post_ensure (fun _ => hsame hclear) fun _ _ h => by cases h
  · intro e _
    have hne : s.repository.activeHolds request ≠ [] := by
      rw [hactive]
      exact List.cons_ne_nil _ _
    have hstored := (Repository.request_eq_ok.1 found).1
    have hid := h.request_id hstored
    change s.repository.setRequest request.blocked = s.repository ↔ _
    constructor
    · intro hkept hblocks
      obtain ⟨request', hadmitted, -, hstate⟩ := hblocks
      cases hunique _ hadmitted
      have hread := congrArg (fun r => (Repository.requests r).get? requestId) hkept
      change (s.repository.requests.set request.requestId request.blocked).get? requestId = _ at hread
      rw [hid, Dict.get?_set_self, hstored] at hread
      exact hstate (congrArg DeletionRequest.state (Option.some.inj hread)).symm
    · intro hnot
      have hblocked : request.state = .blockedByHold := by
        by_contra hstate
        exact hnot ⟨request, admitted, hne, hstate⟩
      have hsame' : request.blocked = request := by
        rw [DeletionRequest.blocked, ← hblocked]
      rw [hsame', Repository.setRequest, hid, Dict.set_of_get? hstored]

end Purge

/-! ## Runs -/

/-- The call writes before it raises, and what it writes was not so before. -/
def WritesFirst (s : System) (i : Input) : Prop :=
  match i.operation with
  | .createRequest sourceId inventory key ifMatch =>
    EntersFirst s i.env i.context sourceId inventory key ifMatch
  | .purge requestId expectedVersion key verified =>
    BlocksFirst s i.context requestId expectedVersion key verified
  | _ => False

section Step

variable {s : System} {i : Input}

theorem error_of_map {α : Type} {f : α → Reply} {outcome : Except RetentionError α} {e : RetentionError}
    (h : outcome.map f = .error e) : outcome = .error e := by
  cases outcome with
  | ok a => cases h
  | error e' => exact congrArg Except.error (Except.error.inj h)

theorem post_kept {α : Type} {x : Op α} {f : α → Reply} (hs : Registered s)
    (hindex : Call.Post x s fun _ s' => SameIndex s s') (hkept : Call.Post x s (KeptOnRaise s))
    (hnot : ¬WritesFirst s i) :
    Call.Post (f <$> x) s fun outcome s' =>
      Registered s' ∧ ∀ e, outcome = .error e → (s'.repository = s.repository ↔ ¬WritesFirst s i) := by
  refine Call.post_map ⟨hindex.registered hs, fun e he => iff_of_true ?_ hnot⟩
  rw [hkept e (error_of_map he)]

/-- One call: sources that have a request stay registered, and a call that raises changes the repository
exactly where it writes first. -/
theorem serve_refused (hindexed : Indexed prim s) (hs : Registered s) (i : Input) :
    Call.Post (serve prim i) s fun outcome s' =>
      Registered s' ∧ ∀ e, outcome = .error e → (s'.repository = s.repository ↔ ¬WritesFirst s i) := by
  obtain ⟨service, env, context, operation⟩ := i
  cases operation with
  | createRequest sourceId inventory key ifMatch =>
    refine Call.post_map ((createRequest_refused hs).mono fun outcome s' h => ⟨h.1, fun e he => ?_⟩)
    exact (h.2 e (error_of_map he)).keeps_iff
  | getRequest requestId =>
    have hsame : Call.Post (getRequest context requestId) s fun _ s' => s' = s := getRequest_spec ..
    exact post_kept hs (hsame.mono fun _ _ h => h ▸ SameIndex.refl s) (hsame.mono fun _ _ h _ _ => h) not_false
  | registerSource sourceId =>
    have hraised : ∀ outcome : Outcome, Registered s ∧ ∀ e, outcome = .error e →
        (s.repository = s.repository ↔ ¬False) := fun _ => ⟨hs, fun _ _ => iff_of_true rfl not_false⟩
    refine Call.post_map (Call.post_ensure (fun _ => hraised _) fun _ => ?_)
    refine Call.post_query (fun _ h => by cases h) fun registered hregistered => ?_
    obtain rfl := Except.ok.inj hregistered
    exact Call.post_ensure (fun _ => hraised _) fun hscope => ⟨hs.entered hscope, fun _ h => by cases h⟩
  | cancel requestId expectedVersion key =>
    refine post_kept hs ((cancel_spec ..).mono fun outcome s' h => ?_) cancel_kept not_false
    rcases h with ⟨request, -, -, rfl⟩ | ⟨rfl, -⟩
    · exact ⟨rfl, rfl⟩
    · exact SameIndex.refl _
  | applyLegalHold sourceId expectedVersion key verified =>
    refine post_kept hs ((applyLegalHold_spec ..).mono fun outcome s' h => ?_) applyLegalHold_kept
      not_false
    rcases h with ⟨request, -, rfl⟩ | ⟨rfl, -⟩
    · exact sameIndex_insertHold
    · exact SameIndex.refl _
  | releaseLegalHold holdId expectedVersion key verified =>
    refine post_kept hs ((releaseLegalHold_spec ..).mono fun outcome s' h => ?_)
      (releaseLegalHold_kept hindexed) not_false
    rcases h with ⟨hold, -, ⟨request, -, rfl⟩ | ⟨e, -, rfl⟩⟩ | ⟨rfl, -⟩
    · exact sameIndex_releaseRequest
    · exact ⟨rfl, rfl⟩
    · exact SameIndex.refl _
  | acknowledgeLocalCopy requestId referenceId evidence expectedVersion key =>
    refine post_kept hs ((acknowledgeLocalCopy_spec ..).mono fun outcome s' h => ?_)
      acknowledgeLocalCopy_kept not_false
    rcases h with ⟨request, item, fingerprint, -, -, rfl⟩ | rfl
    · exact ⟨rfl, rfl⟩
    · exact SameIndex.refl _
  | purge requestId expectedVersion key verified =>
    have hindex : Call.Post (purge prim service env context requestId expectedVersion key verified) s
        fun _ s' => SameIndex s s' := by
      refine (purge_spec ..).mono fun outcome s' h => ?_
      rcases h with ⟨request, -, -, rfl⟩ | ⟨request, -, -, rfl⟩ | ⟨rfl, -⟩
      · exact ⟨rfl, rfl⟩
      · exact ⟨rfl, rfl⟩
      · exact SameIndex.refl _
    exact Call.post_map ⟨hindex.registered hs, fun e he => purge_refused hindexed e (error_of_map he)⟩

end Step

theorem registered_run (is : List Input) : Registered ((machine prim).run is) := by
  have hboth := (machine prim).run_induction (I := fun s => Consistent prim s ∧ Registered s)
    ⟨Consistent.init, fun _ _ _ _ h => by cases h⟩ (fun s i h => ⟨consistent_next h.1 i,
      (serve_refused h.1.toIndexed h.2 i).1⟩) is
  exact hboth.2

/-- After a run a call that raises leaves the repository as it was exactly where it does not write first. -/
theorem refused_call_keeps_iff (prim : Primitives) (is : List Input) (i : Input) (e : RetentionError)
    (h : (machine prim).answer ((machine prim).run is) i = .error e) :
    ((machine prim).next ((machine prim).run is) i).repository = ((machine prim).run is).repository ↔
      ¬WritesFirst ((machine prim).run is) i :=
  (serve_refused (consistent_run is).toIndexed (registered_run is) i).2 e h

namespace Sample

def digest : Primitives where
  fingerprint _ := "41a06a08a07c14986bfd83851d94f0923d4053a9264fd7d6e591c44f6f47fabc"
  tokens := .counting

def unknownCancellation : Input := call 0 (.cancel "deletion-0" (.version 1) "key-2")

end Sample

/-- A cancellation of a request that does not exist. -/
theorem refused_cancellation_keeps :
    ((machine Sample.digest).next ((machine Sample.digest).run []) Sample.unknownCancellation).repository =
      ((machine Sample.digest).run []).repository ↔
      ¬WritesFirst ((machine Sample.digest).run []) Sample.unknownCancellation :=
  refused_call_keeps_iff Sample.digest [] Sample.unknownCancellation
    { code := "DELETION_REQUEST_UNAVAILABLE", status := 404 } rfl

namespace Sample

def hold : Input := call 1 (.applyLegalHold "source" (.version 1) "key-2" true)

def heldCancellation : Input := call 2 (.cancel "deletion-0" (.version 2) "key-3")

def heldPurge : Input := call 3 (.purge "deletion-0" (.version 3) "key-4" true)

end Sample

/-- A purge that is refused takes a cancelled request back to the blocked ones. -/
theorem refused_purge_blocks : ¬∀ is i e,
    (machine Sample.digest).answer ((machine Sample.digest).run is) i = .error e →
      ((machine Sample.digest).next ((machine Sample.digest).run is) i).repository =
        ((machine Sample.digest).run is).repository := by
  intro h
  have hraised : ((machine Sample.digest).answer ((machine Sample.digest).run
      [Sample.request, Sample.hold, Sample.heldCancellation]) Sample.heldPurge).toOption = none := by
    decide
  have hstates : (((machine Sample.digest).next ((machine Sample.digest).run
        [Sample.request, Sample.hold, Sample.heldCancellation]) Sample.heldPurge).repository.requests.get?
        "deletion-0").map DeletionRequest.state = some .blockedByHold ∧
      (((machine Sample.digest).run [Sample.request, Sample.hold, Sample.heldCancellation]).repository.requests.get?
        "deletion-0").map DeletionRequest.state = some .cancelled := by
    decide
  cases hanswer : (machine Sample.digest).answer ((machine Sample.digest).run
      [Sample.request, Sample.hold, Sample.heldCancellation]) Sample.heldPurge with
  | ok reply =>
    rw [hanswer] at hraised
    cases hraised
  | error e =>
    have hkept := h _ _ e hanswer
    rw [hkept, hstates.2] at hstates
    exact absurd hstates.1 (by decide)

end DaonUser.Retention
