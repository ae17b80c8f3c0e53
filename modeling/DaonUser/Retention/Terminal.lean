import DaonUser.Retention.Invariant

/-!
# Retention: cancelled and purged requests

A cancelled request should stay cancelled without a further call of the cleanup port, and a purged one
should stay purged. But `apply_legal_hold` and `release_legal_hold` write the state of whatever request the
source index names, and `purge` never looks at the state it starts from (`cancelled_request_purged`,
`terminal_iff`).
-/

namespace DaonUser.Retention

open Lib

variable {s : System} {requestId : String}

variable {prim : Primitives}

/-! ## The property -/

/-- The request is cancelled and its source in use. -/
def Cancelled (s : System) (requestId : String) : Prop :=
  ∃ request, s.repository.requests.get? requestId = some request ∧
    request.state = .cancelled ∧ request.sourceActive = true

def Purged (s : System) (requestId : String) : Prop :=
  ∃ request, s.repository.requests.get? requestId = some request ∧ request.state = .purged

def callsFor (s : System) (requestId : String) : List Invocation :=
  s.invocations.filter fun i => i.requestId = requestId

/-- The call cancels the request: it returns the request in state `cancelled`. -/
def CancelSucceeds (prim : Primitives) (s : System) (i : Input) (requestId : String) : Prop :=
  ∃ expectedVersion key view, i.operation = .cancel requestId expectedVersion key ∧
    (machine prim).answer s i = .ok (.deletion view) ∧ view.state = .cancelled

/-- Once cancelled, a request stays cancelled and is not cleaned up; once purged, it stays purged. -/
structure Terminal (prim : Primitives) (is : List Input) : Prop where
  cancelled : ∀ pre i post rest, is = pre ++ i :: post ++ rest → ∀ requestId,
    CancelSucceeds prim ((machine prim).run pre) i requestId →
    Cancelled ((machine prim).run (pre ++ i :: post)) requestId ∧
      callsFor ((machine prim).run (pre ++ i :: post)) requestId =
        callsFor ((machine prim).run (pre ++ [i])) requestId
  purged : ∀ pre post rest, is = pre ++ post ++ rest → ∀ requestId,
    Purged ((machine prim).run pre) requestId →
    Purged ((machine prim).run (pre ++ post)) requestId

/-- The call is none of those that write over a terminal state: a hold that passes its checks on a
source whose request is cancelled or purged, the release of the last hold on a source whose request
is cancelled, a purge of a cancelled request that passes its checks or meets a hold. -/
def KeepsTerminal (s : System) (i : Input) : Prop :=
  match i.operation with
  | .applyLegalHold sourceId expectedVersion key verified => ∀ request,
      HoldAdmitted i.context sourceId expectedVersion key verified s.repository (some request) →
      request.state ≠ .cancelled ∧ request.state ≠ .purged
  | .releaseLegalHold holdId expectedVersion key verified => ∀ hold request,
      ReleaseAdmitted i.context holdId expectedVersion key verified s.repository hold →
      s.repository.requestOfSource i.context hold.sourceId = .ok (some request) →
      (s.repository.setHold hold.released).activeHolds request = [] →
      request.state ≠ .cancelled
  | .purge requestId expectedVersion key verified => ∀ request,
      PurgeAdmitted i.context requestId expectedVersion key verified s.repository request →
      (s.repository.activeHolds request ≠ [] ∨
        PurgeAllowed i.service i.env s.repository request) →
      request.state ≠ .cancelled
  | _ => True

inductive Rewrites (s : System) (i : Input) (o : Outcome) (request : DeletionRequest) :
    DeletionRequest → Prop where
  | cancelled {expectedVersion : ExpectedVersion} {key : String}
      (operation : i.operation = .cancel request.requestId expectedVersion key)
      (admitted : CancelAdmitted i.context request.requestId expectedVersion key s.repository
        request)
      (answer : o = .ok (.deletion (view request.cancelled))) :
      Rewrites s i o request request.cancelled
  | held {sourceId key : String} {expectedVersion : ExpectedVersion} {verified : Bool}
      (operation : i.operation = .applyLegalHold sourceId expectedVersion key verified)
      (admitted : HoldAdmitted i.context sourceId expectedVersion key verified s.repository
        (some request)) :
      Rewrites s i o request
        { request with state := .blockedByHold, version := request.version + 1 }
  | released {holdId key : String} {expectedVersion : ExpectedVersion} {verified : Bool}
      {hold : LegalHold}
      (operation : i.operation = .releaseLegalHold holdId expectedVersion key verified)
      (admitted : ReleaseAdmitted i.context holdId expectedVersion key verified s.repository hold)
      (found : s.repository.requestOfSource i.context hold.sourceId = .ok (some request))
      (last : (s.repository.setHold hold.released).activeHolds request = [])
      (before : Held s.repository request.scope) :
      Rewrites s i o request (request.unblock (i.env.clock 0))
  | acknowledged {referenceId evidence : String} {item : CleanupItem} :
      Rewrites s i o request (request.acknowledged referenceId item evidence)
  | blocked {requestId key : String} {expectedVersion : ExpectedVersion} {verified : Bool}
      (operation : i.operation = .purge requestId expectedVersion key verified)
      (admitted : PurgeAdmitted i.context requestId expectedVersion key verified s.repository
        request)
      (active : s.repository.activeHolds request ≠ []) :
      Rewrites s i o request request.blocked
  | purged {requestId key : String} {expectedVersion : ExpectedVersion} {verified : Bool}
      (operation : i.operation = .purge requestId expectedVersion key verified)
      (admitted : PurgeAdmitted i.context requestId expectedVersion key verified s.repository
        request)
      (allowed : PurgeAllowed i.service i.env s.repository request) :
      Rewrites s i o request (purgeItems i.env i.context verified s request).request.finish

theorem requests_next (h : Consistent prim s) (i : Input) :
    ((machine prim).next s i).repository.requests = s.repository.requests ∨
    (∃ request, s.repository.requests.get? request.requestId = none ∧
      request.state ≠ .cancelled ∧
      ((machine prim).next s i).repository.requests =
        s.repository.requests.set request.requestId request) ∨
    ∃ request request', s.repository.requests.get? request.requestId = some request ∧
      Rewrites s i ((machine prim).answer s i) request request' ∧
      ((machine prim).next s i).repository.requests =
        s.repository.requests.set request.requestId request' := by
  have heffect := effect_next prim s i
  generalize (machine prim).answer s i = o at heffect ⊢
  generalize (machine prim).next s i = s' at heffect ⊢
  cases heffect with
  | unchanged same => exact Or.inl same.requests
  | @requested _ sourceId _ _ items scopes hnone =>
    refine Or.inr (Or.inl ⟨newRequest prim i.service i.env i.context sourceId items s,
      h.request_fresh, ?_, rfl⟩)
    simp only [newRequest]
    split <;> simp
  | @cancelled requestId _ _ _ request operation admitted =>
    have hfound := h.toIndexed.found admitted.found
    have hid := h.request_id (Repository.request_eq_ok.1 admitted.found).1
    rw [← hid] at operation admitted
    exact Or.inr (Or.inr ⟨request, _, hfound, .cancelled operation admitted rfl, rfl⟩)
  | @held _ _ _ _ _ _ request operation admitted =>
    cases request with
    | none => exact Or.inl rfl
    | some request =>
      rcases h.toIndexed.requestOfSource_eq with ⟨hok, -⟩ | ⟨q, hok, hget, -⟩ <;>
        cases Except.ok.inj (admitted.found.symm.trans hok)
      exact Or.inr (Or.inr ⟨request, _, hget, .held operation admitted, rfl⟩)
  | @released _ _ _ _ _ _ hold request operation admitted found =>
    cases request with
    | none => exact Or.inl rfl
    | some request =>
      rcases h.toIndexed.requestOfSource_eq with ⟨hok, -⟩ | ⟨q, hok, hget, hscope⟩ <;>
        cases Except.ok.inj (found.symm.trans hok)
      by_cases hlast : (s.repository.setHold hold.released).activeHolds request = []
      · obtain ⟨hgethold, htenant, hworkspace⟩ := Repository.hold_eq_ok.1 admitted.found
        have hheld : Held s.repository request.scope := by
          refine ⟨_, hold, hgethold, ?_, admitted.active⟩
          rw [hscope, LegalHold.scope, htenant, hworkspace]
        refine Or.inr (Or.inr ⟨request, _, hget,
          .released operation admitted found hlast hheld, ?_⟩)
        simp only [System.mapRepository, releaseRequest, if_pos hlast]
        rfl
      · refine Or.inl ?_
        simp only [System.mapRepository, releaseRequest, if_neg hlast]
        rfl
  | orphaned lost => exact Or.inl rfl
  | acknowledged found listed =>
    exact Or.inr (Or.inr ⟨_, _, h.toIndexed.found found, .acknowledged, rfl⟩)
  | blocked operation admitted active =>
    exact Or.inr (Or.inr ⟨_, _, h.toIndexed.found admitted.found,
      .blocked operation admitted active, rfl⟩)
  | @purged _ requestId _ _ _ verified request operation admitted allowed =>
    refine Or.inr (Or.inr ⟨request, _, h.toIndexed.found admitted.found,
      .purged operation admitted allowed, ?_⟩)
    rw [← (purgeItems_keeps (s := s) admitted.sensitive allowed).request_id]
    rfl

theorem request_next (h : Consistent prim s) (i : Input)
    {request : DeletionRequest} (hget : s.repository.requests.get? requestId = some request) :
    ∃ request', ((machine prim).next s i).repository.requests.get? requestId = some request' ∧
      (request' = request ∨ Rewrites s i ((machine prim).answer s i) request request') := by
  rcases requests_next h i with hsame | ⟨q, hnone, -, hset⟩ | ⟨q, q', hq, hrw, hset⟩
  · exact ⟨request, by rw [hsame, hget], Or.inl rfl⟩
  · refine ⟨request, ?_, Or.inl rfl⟩
    rw [hset, Dict.get?_set_of_ne, hget]
    rintro rfl
    rw [hnone] at hget
    cases hget
  · rw [hset]
    by_cases heq : q.requestId = requestId
    · subst heq
      cases Option.some.inj (hq.symm.trans hget)
      exact ⟨q', Dict.get?_set_self .., Or.inr hrw⟩
    · exact ⟨request, by rw [Dict.get?_set_of_ne _ heq, hget], Or.inl rfl⟩

theorem request_next_of_none (h : Consistent prim s) (i : Input)
    (hnone : s.repository.requests.get? requestId = none) {request' : DeletionRequest}
    (hget : ((machine prim).next s i).repository.requests.get? requestId = some request') :
    request'.state ≠ .cancelled := by
  rcases requests_next h i with hsame | ⟨q, -, hq, hset⟩ | ⟨q, q', hq, -, hset⟩
  · rw [hsame, hnone] at hget
    cases hget
  · rw [hset, Dict.get?_set] at hget
    split at hget
    · cases hget
      exact hq
    · rw [hnone] at hget
      cases hget
  · rw [hset, Dict.get?_set] at hget
    split at hget
    · next heq =>
      rw [heq, hnone] at hq
      cases hq
    · rw [hnone] at hget
      cases hget

section Step

variable {s : System} {i : Input} {requestId : String}

theorem cancelled_next (h : Consistent prim s) (hkeeps : KeepsTerminal s i)
    (hc : Cancelled s requestId) : Cancelled ((machine prim).next s i) requestId := by
  obtain ⟨request, hget, hstate, hactive⟩ := hc
  obtain ⟨request', hget', hsame | hrw⟩ := request_next h i hget
  · exact ⟨request', hget', hsame ▸ hstate, hsame ▸ hactive⟩
  · cases hrw with
    | cancelled operation admitted answer => exact absurd hstate admitted.notCancelled
    | held operation admitted =>
      rw [KeepsTerminal, operation] at hkeeps
      exact absurd hstate (hkeeps request admitted).1
    | released operation admitted found last before =>
      rw [KeepsTerminal, operation] at hkeeps
      exact absurd hstate (hkeeps _ request admitted found last)
    | acknowledged => exact ⟨_, hget', hstate, hactive⟩
    | blocked operation admitted active =>
      rw [KeepsTerminal, operation] at hkeeps
      exact absurd hstate (hkeeps request admitted (Or.inl active))
    | purged operation admitted allowed =>
      rw [KeepsTerminal, operation] at hkeeps
      exact absurd hstate (hkeeps request admitted (Or.inr allowed))

theorem purged_next (h : Consistent prim s) (hkeeps : KeepsTerminal s i)
    (hp : Purged s requestId) : Purged ((machine prim).next s i) requestId := by
  obtain ⟨request, hget, hstate⟩ := hp
  have hunheld : ¬ Held s.repository request.scope := by
    intro hheld
    rcases (h.lawful hget).held hheld with hb | hc
    · rw [hstate] at hb
      cases hb
    · rw [hstate] at hc
      cases hc
  obtain ⟨request', hget', hsame | hrw⟩ := request_next h i hget
  · exact ⟨request', hget', hsame ▸ hstate⟩
  · cases hrw with
    | cancelled operation admitted answer => exact absurd hstate admitted.notPurged
    | held operation admitted =>
      rw [KeepsTerminal, operation] at hkeeps
      exact absurd hstate (hkeeps request admitted).2
    | released operation admitted found last before => exact absurd before hunheld
    | acknowledged => exact ⟨_, hget', hstate⟩
    | blocked operation admitted active => exact absurd (held_request_iff.1 active) hunheld
    | purged operation admitted allowed =>
      have hcleaned : request.cleaned := (h.lawful hget).purged_cleaned hstate
      refine ⟨_, hget', ?_⟩
      rw [purgeItems_cleaned hcleaned]
      exact if_pos hcleaned

theorem callsFor_next (h : Consistent prim s) (hkeeps : KeepsTerminal s i) (hc : Cancelled s requestId) :
    callsFor ((machine prim).next s i) requestId = callsFor s requestId := by
  have heffect := effect_next prim s i
  generalize (machine prim).answer s i = o at heffect
  generalize (machine prim).next s i = s' at heffect ⊢
  cases heffect with
  | unchanged same => rw [callsFor, same.invocations, callsFor]
  | purged operation admitted allowed =>
    obtain ⟨added, hadded, hfor⟩ :=
      (purgeItems_keeps (s := s) admitted.sensitive allowed).invocations
    rw [KeepsTerminal, operation] at hkeeps
    have hstate := hkeeps _ admitted (Or.inr allowed)
    have hne : ∀ invocation ∈ added, ¬ invocation.requestId = requestId := by
      intro invocation hmem heq
      obtain ⟨q, hq, hcancelled, -⟩ := hc
      rw [← heq, (hfor invocation hmem).1, h.toIndexed.found admitted.found] at hq
      cases hq
      exact hstate hcancelled
    have hnil : added.filter (fun invocation => invocation.requestId = requestId) = [] :=
      List.filter_eq_nil_iff.2 fun invocation hmem => by
        simpa using hne invocation hmem
    rw [callsFor, callsFor, ← List.append_nil (List.filter _ s.invocations), ← hnil,
      ← List.filter_append, ← hadded]
    rfl
  | _ => rfl

theorem cancelled_of_succeeds (h : Consistent prim s) (hsucceeds : CancelSucceeds prim s i requestId) :
    Cancelled ((machine prim).next s i) requestId := by
  obtain ⟨expectedVersion, key, v, operation, answer, hstate⟩ := hsucceeds
  have hpost : Call.Post (serve prim i) s fun o s' =>
      o = .ok (.deletion v) → Cancelled s' requestId := by
    rw [serve, operation]
    refine Call.post_map ((cancel_spec ..).mono ?_)
    rintro _ _ (⟨request, admitted, rfl, rfl⟩ | ⟨rfl, hview⟩) ho
    · have hid := h.request_id (Repository.request_eq_ok.1 admitted.found).1
      exact ⟨request.cancelled, by rw [← hid]; exact Dict.get?_set_self .., rfl, rfl⟩
    · rename_i o _
      cases o with
      | error e => cases ho
      | ok v' =>
        cases ho
        obtain ⟨request, hget, rfl⟩ := hview v rfl
        exact ⟨request, hget, hstate, (h.lawful hget).cancelled_active hstate⟩
  exact hpost answer

theorem cancelled_of_next (h : Consistent prim s) (hc : Cancelled ((machine prim).next s i) requestId) :
    Cancelled s requestId ∨ CancelSucceeds prim s i requestId := by
  obtain ⟨q, hq, hstate, -⟩ := hc
  rcases hget : s.repository.requests.get? requestId with _ | request
  · exact absurd hstate (request_next_of_none h i hget hq)
  obtain ⟨request', hget', hrw⟩ := request_next h i hget
  cases Option.some.inj (hget'.symm.trans hq)
  have hkept : request.state = .cancelled → Cancelled s requestId := fun hs =>
    ⟨request, hget, hs, (h.lawful hget).cancelled_active hs⟩
  rcases hrw with rfl | hrw
  · exact Or.inl (hkept hstate)
  · cases hrw with
    | cancelled operation admitted answer =>
      rw [h.request_id hget] at operation
      exact Or.inr ⟨_, _, _, operation, answer, rfl⟩
    | held operation admitted => cases hstate
    | released operation admitted found last before =>
      simp only [DeletionRequest.unblock] at hstate
      split at hstate <;> cases hstate
    | acknowledged => exact Or.inl (hkept hstate)
    | blocked operation admitted active => cases hstate
    | purged operation admitted allowed =>
      simp only [DeletionRequest.finish] at hstate
      split at hstate <;> cases hstate

end Step

theorem exists_cancelSucceeds (is : List Input) (h : Cancelled ((machine prim).run is) requestId) :
    ∃ pre i post, is = pre ++ i :: post ∧
      CancelSucceeds prim ((machine prim).run pre) i requestId := by
  induction is using List.reverseRecOn with
  | nil =>
    obtain ⟨request, hget, -⟩ := h
    cases hget
  | append_singleton is i ih =>
    rw [Machine.run_concat] at h
    rcases cancelled_of_next (consistent_run is) h with h | h
    · obtain ⟨pre, j, post, rfl, hj⟩ := ih h
      exact ⟨pre, j, post ++ [i], by simp, hj⟩
    · exact ⟨is, i, [], rfl, h⟩

theorem cancelled_runFrom {is : List Input} (h : Consistent prim s) (hc : Cancelled s requestId)
    (hall : (machine prim).AllSteps KeepsTerminal s is) :
    Cancelled ((machine prim).runFrom s is) requestId ∧
      callsFor ((machine prim).runFrom s is) requestId = callsFor s requestId := by
  have hrun := (machine prim).runFrom_induction_of
    (I := fun t => Consistent prim t ∧ Cancelled t requestId ∧
      callsFor t requestId = callsFor s requestId)
    (fun t i ⟨ht, hct, hcalls⟩ hkeeps => ⟨consistent_next ht i, cancelled_next ht hkeeps hct,
      (callsFor_next ht hkeeps hct).trans hcalls⟩) ⟨h, hc, rfl⟩ hall
  exact hrun.2

theorem purged_runFrom {is : List Input} (h : Consistent prim s) (hp : Purged s requestId)
    (hall : (machine prim).AllSteps KeepsTerminal s is) :
    Purged ((machine prim).runFrom s is) requestId := by
  have hrun := (machine prim).runFrom_induction_of
    (I := fun t => Consistent prim t ∧ Purged t requestId)
    (fun t i ⟨ht, hpt⟩ hkeeps => ⟨consistent_next ht i, purged_next ht hkeeps hpt⟩) ⟨h, hp⟩ hall
  exact hrun.2

theorem keepsTerminal_of_next {pre : List Input} {i : Input}
    (hcancelled : ∀ requestId, Cancelled ((machine prim).run pre) requestId →
      Cancelled ((machine prim).next ((machine prim).run pre) i) requestId)
    (hpurged : ∀ requestId, Purged ((machine prim).run pre) requestId →
      Purged ((machine prim).next ((machine prim).run pre) i) requestId) :
    KeepsTerminal ((machine prim).run pre) i := by
  have h : Consistent prim ((machine prim).run pre) := consistent_run pre
  generalize (machine prim).run pre = s at h hcancelled hpurged
  have hc : ∀ {request request'}, s.repository.requests.get? request.requestId = some request →
      request.state = .cancelled →
      ((machine prim).next s i).repository.requests =
        s.repository.requests.set request.requestId request' →
      request'.state = .cancelled := by
    intro request request' hget hstate hset
    obtain ⟨q, hq, hqs, -⟩ := hcancelled _
      ⟨request, hget, hstate, (h.lawful hget).cancelled_active hstate⟩
    rw [hset, Dict.get?_set_self] at hq
    cases hq
    exact hqs
  have hp : ∀ {request request'}, s.repository.requests.get? request.requestId = some request →
      request.state = .purged →
      ((machine prim).next s i).repository.requests =
        s.repository.requests.set request.requestId request' →
      request'.state = .purged := by
    intro request request' hget hstate hset
    obtain ⟨q, hq, hqs⟩ := hpurged _ ⟨request, hget, hstate⟩
    rw [hset, Dict.get?_set_self] at hq
    cases hq
    exact hqs
  unfold KeepsTerminal
  split
  · next operation =>
    intro request admitted
    rcases h.toIndexed.requestOfSource_eq with ⟨hok, -⟩ | ⟨q, hok, hget, -⟩ <;>
      cases Except.ok.inj (admitted.found.symm.trans hok)
    have hnext := congrArg (fun s : System => s.repository.requests)
      (next_of_hold prim operation admitted)
    refine ⟨fun hs => ?_, fun hs => ?_⟩
    · cases hc hget hs hnext
    · cases hp hget hs hnext
  · next operation =>
    intro hold request admitted found last hs
    rcases h.toIndexed.requestOfSource_eq with ⟨hok, -⟩ | ⟨q, hok, hget, -⟩ <;>
      cases Except.ok.inj (found.symm.trans hok)
    have hnext := congrArg (fun s : System => s.repository.requests)
      (next_of_release prim operation admitted found)
    simp only [System.mapRepository, releaseRequest, if_pos last] at hnext
    have hstate := hc hget hs hnext
    simp only [DeletionRequest.unblock] at hstate
    split at hstate <;> cases hstate
  · next verified operation =>
    intro request admitted acts hs
    have hget := h.toIndexed.found admitted.found
    rcases next_of_purge prim operation admitted acts with hnext | ⟨allowed, hnext⟩
    · cases hc hget hs (congrArg (fun s : System => s.repository.requests) hnext)
    · have hset : ((machine prim).next s i).repository.requests =
          s.repository.requests.set request.requestId
            (purgeItems i.env i.context verified s request).request.finish := by
        rw [hnext, ← (purgeItems_keeps (s := s) admitted.sensitive allowed).request_id]
        rfl
      have hstate := hc hget hs hset
      simp only [DeletionRequest.finish] at hstate
      split at hstate <;> cases hstate
  · trivial

/-- Cancelled requests stay cancelled without being cleaned up, and purged requests stay purged,
in exactly the runs whose calls all meet the condition. -/
theorem terminal_iff (prim : Primitives) (is : List Input) :
    Terminal prim is ↔ (machine prim).AllSteps KeepsTerminal (machine prim).init is := by
  constructor
  · intro h
    refine Machine.allSteps_iff _ |>.2 fun pre i post hsplit => ?_
    refine keepsTerminal_of_next (fun requestId hc => ?_) fun requestId hp => ?_
    · obtain ⟨front, j, back, rfl, hj⟩ := exists_cancelSucceeds pre hc
      have hcancelled := (h.cancelled front j (back ++ [i]) post (by simp [hsplit]) requestId hj).1
      rw [← Machine.run_concat]
      simpa using hcancelled
    · rw [← Machine.run_concat]
      exact h.purged pre [i] post (by simp [hsplit]) requestId hp
  · intro h
    refine ⟨?_, ?_⟩
    · rintro pre i post rest rfl requestId hsucceeds
      rw [Machine.allSteps_append, Machine.allSteps_append] at h
      obtain ⟨⟨-, -, hpost⟩, -⟩ := h
      have hconsistent : Consistent prim ((machine prim).next ((machine prim).run pre) i) :=
        consistent_next (consistent_run pre) i
      rw [Machine.run_append, Machine.run_concat, Machine.runFrom_cons]
      exact cancelled_runFrom hconsistent
        (cancelled_of_succeeds (consistent_run pre) hsucceeds) hpost
    · rintro pre post rest rfl requestId hp
      rw [Machine.allSteps_append, Machine.allSteps_append] at h
      rw [Machine.run_append]
      exact purged_runFrom (consistent_run pre) hp h.1.2

/-! ## A cancelled request that is cleaned up -/

namespace Sample

def context : RetentionContext where
  tenantId := "tenant"
  workspaceId := "workspace"
  actorId := "actor"
  traceId := "trace"
  policyVersion := "policy"
  organizationAdmin := true
  safe := by decide

def derivative (kind : Kind) (referenceId : String) (disposition : Disposition)
    (safe : isSafeId referenceId = true := by decide) : DerivativeInput where
  kind := kind
  referenceId := referenceId
  acknowledgementRequired := decide (kind = .knownLocalCopy)
  disposition := disposition
  safe := safe
  acknowledged := rfl

def inventory : List DerivativeInput :=
  [derivative .originalContent "fixture-content" .present,
    derivative .index "fixture-index" .present,
    derivative .preview "fixture-preview" .present,
    derivative .cache "fixture-cache" .present,
    derivative .knownLocalCopy "fixture-copy" .notPresent,
    derivative .syncReference "fixture-reference" .present]

def call (reading : Int) (operation : Operation) : Input where
  service := {}
  env := { clock := fun _ => reading, cleanup := fun _ => true, provided := none }
  context := context
  operation := operation

def request : Input := call 0 (.createRequest "source" (some inventory) "key-1" .any)

def cancellation : Input := call 1 (.cancel "deletion-0" (.version 1) "key-2")

def cleanup : Input := call 2592000000000 (.purge "deletion-0" (.version 2) "key-3" true)

end Sample

/-- A request is cancelled, and a purge after the grace period cleans it up. -/
theorem cancelled_request_purged :
    ¬ ∃ fingerprint, ∀ is, Terminal { fingerprint := fingerprint, tokens := .counting } is := by
  rintro ⟨fingerprint, h⟩
  obtain ⟨⟨request, hget, hstate, -⟩, -⟩ :=
    (h [Sample.request, Sample.cancellation, Sample.cleanup]).cancelled [Sample.request]
      Sample.cancellation [Sample.cleanup] [] rfl "deletion-0" ⟨_, _, _, rfl, rfl, rfl⟩
  have hpurged : (((machine { fingerprint := fingerprint, tokens := .counting }).run
      [Sample.request, Sample.cancellation, Sample.cleanup]).repository.requests.get?
        "deletion-0").map DeletionRequest.state = some .purged := rfl
  rw [List.singleton_append] at hget
  rw [hget, Option.map_some, hstate] at hpurged
  cases hpurged

end DaonUser.Retention
