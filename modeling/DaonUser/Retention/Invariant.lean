import DaonUser.Retention.Spec

/-!
# Retention: what holds in every reachable state

`Indexed` says that requests and holds are stored under their own ids and that the source index names the
one request of each scope, `Lawful` what the state of a request says about its inventory and its holds.
-/

namespace DaonUser.Retention

open Lib

variable {r r' : Repository} {s s' : System} {request' : DeletionRequest} {i : Input}
  {expectedVersion : ExpectedVersion}

variable {prim : Primitives}

/-! ## Scopes and holds -/

abbrev Scope := String × String × String

def DeletionRequest.scope (request : DeletionRequest) : Scope :=
  (request.context.tenantId, request.context.workspaceId, request.sourceId)

def LegalHold.scope (hold : LegalHold) : Scope :=
  (hold.context.tenantId, hold.context.workspaceId, hold.sourceId)

/-- An active legal hold exists on a source. -/
def Held (r : Repository) (scope : Scope) : Prop :=
  ∃ k hold, r.holds.get? k = some hold ∧ hold.scope = scope ∧ hold.state = .active

theorem held_iff {tenantId workspaceId sourceId : String} :
    r.activeHoldsOn tenantId workspaceId sourceId ≠ [] ↔
      Held r (tenantId, workspaceId, sourceId) := by
  constructor
  · intro h
    obtain ⟨hold, hmem⟩ := List.exists_mem_of_ne_nil _ h
    obtain ⟨⟨k, hk⟩, rfl, rfl, rfl, hactive⟩ := Repository.mem_activeHoldsOn.1 hmem
    exact ⟨k, hold, hk, rfl, hactive⟩
  · rintro ⟨k, hold, hk, hscope, hactive⟩
    simp only [LegalHold.scope, Prod.mk.injEq] at hscope
    exact List.ne_nil_of_mem (Repository.mem_activeHoldsOn.2
      ⟨⟨k, hk⟩, hscope.1, hscope.2.1, hscope.2.2, hactive⟩)

theorem held_request_iff {request : DeletionRequest} :
    r.activeHolds request ≠ [] ↔ Held r request.scope := held_iff

theorem not_held_iff {request : DeletionRequest} :
    r.activeHolds request = [] ↔ ¬ Held r request.scope := by
  rw [← held_request_iff, ne_eq, not_not]

theorem Held.congr (h : r'.holds = r.holds) {scope : Scope} :
    Held r' scope ↔ Held r scope := by
  rw [Held, Held, h]

/-! ## The invariant -/

/-- What the state of a request says about its inventory and the holds on its source. -/
structure Lawful (r : Repository) (request : DeletionRequest) : Prop where
  cancelled_active : request.state = .cancelled → request.sourceActive = true
  purged_cleaned : request.state = .purged → request.cleaned
  held : Held r request.scope → request.state = .blockedByHold ∨ request.state = .cancelled
  blocked : request.state = .blockedByHold → Held r request.scope

/-- Requests and holds are stored under their own drawn ids, and the index is exact. -/
structure Indexed (prim : Primitives) (s : System) : Prop where
  request_id : ∀ {k request}, s.repository.requests.get? k = some request → request.requestId = k
  hold_id : ∀ {k hold}, s.repository.holds.get? k = some hold → hold.holdId = k
  request_drawn : ∀ {k request}, s.repository.requests.get? k = some request →
    ∃ n < s.drawn, k = prim.tokens.id "deletion" n
  hold_drawn : ∀ {k hold}, s.repository.holds.get? k = some hold →
    ∃ n < s.drawn, k = prim.tokens.id "legal-hold" n
  indexed : ∀ {k request}, s.repository.requests.get? k = some request →
    s.repository.sourceRequests.get? request.scope = some k
  named : ∀ {scope k}, s.repository.sourceRequests.get? scope = some k →
    ∃ request, s.repository.requests.get? k = some request ∧ request.scope = scope

structure Consistent (prim : Primitives) (s : System) : Prop extends Indexed prim s where
  lawful : ∀ {k request}, s.repository.requests.get? k = some request →
    Lawful s.repository request

namespace Lawful

theorem congr {request : DeletionRequest}
    (hheld : Held r' request.scope ↔ Held r request.scope) (h : Lawful r request) :
    Lawful r' request :=
  ⟨h.cancelled_active, h.purged_cleaned, fun hh => h.held (hheld.1 hh),
    fun hs => hheld.2 (h.blocked hs)⟩

end Lawful

namespace Indexed

theorem scope_inj (h : Indexed prim s) {k k' : String}
    {request : DeletionRequest} (hk : s.repository.requests.get? k = some request)
    (hk' : s.repository.requests.get? k' = some request')
    (hscope : request.scope = request'.scope) : k = k' := by
  have hi := h.indexed hk
  rw [hscope, h.indexed hk'] at hi
  exact (Option.some.inj hi).symm

theorem request_fresh (h : Indexed prim s) :
    s.repository.requests.get? (prim.tokens.id "deletion" s.drawn) = none := by
  by_contra hn
  obtain ⟨request, hr⟩ := Option.ne_none_iff_exists'.1 hn
  obtain ⟨n, hlt, heq⟩ := h.request_drawn hr
  exact Nat.ne_of_gt hlt ((TokenSource.id_inj _ _).1 heq)

theorem hold_fresh (h : Indexed prim s) :
    s.repository.holds.get? (prim.tokens.id "legal-hold" s.drawn) = none := by
  by_contra hn
  obtain ⟨hold, hh⟩ := Option.ne_none_iff_exists'.1 hn
  obtain ⟨n, hlt, heq⟩ := h.hold_drawn hh
  exact Nat.ne_of_gt hlt ((TokenSource.id_inj _ _).1 heq)

theorem requestOfSource_eq (h : Indexed prim s) {context : RetentionContext} {sourceId : String} :
    (s.repository.requestOfSource context sourceId = .ok none ∧
      s.repository.sourceRequests.get? (context.tenantId, context.workspaceId, sourceId) = none) ∨
    ∃ request, s.repository.requestOfSource context sourceId = .ok (some request) ∧
      s.repository.requests.get? request.requestId = some request ∧
      request.scope = (context.tenantId, context.workspaceId, sourceId) := by
  rcases hsource : s.repository.sourceRequests.get?
      (context.tenantId, context.workspaceId, sourceId) with _ | k
  · exact Or.inl ⟨by simp only [Repository.requestOfSource, hsource], rfl⟩
  · obtain ⟨request, hk, hscope⟩ := h.named hsource
    have hfields := hscope
    simp only [DeletionRequest.scope, Prod.mk.injEq] at hfields
    have hreq : s.repository.request context k = .ok request :=
      Repository.request_eq_ok.2 ⟨hk, hfields.1, hfields.2.1⟩
    refine Or.inr ⟨request, ?_, ?_, hscope⟩
    · simp only [Repository.requestOfSource, hsource, hreq, Except.map]
    · rw [h.request_id hk]
      exact hk

end Indexed

namespace Consistent

theorem init : Consistent prim (machine prim).init where
  request_id h := by cases h
  hold_id h := by cases h
  request_drawn h := by cases h
  hold_drawn h := by cases h
  indexed h := by cases h
  named h := by cases h
  lawful h := by cases h

theorem unchanged (h : Consistent prim s) (hu : Unchanged s s') :
    Consistent prim s' where
  request_id hk := h.request_id (by rwa [hu.requests] at hk)
  hold_id hk := h.hold_id (by rwa [hu.holds] at hk)
  request_drawn hk := by
    rw [hu.drawn]
    exact h.request_drawn (by rwa [hu.requests] at hk)
  hold_drawn hk := by
    rw [hu.drawn]
    exact h.hold_drawn (by rwa [hu.holds] at hk)
  indexed hk := by
    rw [hu.sourceRequests]
    exact h.indexed (by rwa [hu.requests] at hk)
  named hs := by
    rw [hu.sourceRequests] at hs
    rw [hu.requests]
    exact h.named hs
  lawful hk := (h.lawful (by rwa [hu.requests] at hk)).congr (Held.congr hu.holds)

theorem rewrite (h : Consistent prim s) {request : DeletionRequest}
    (found : s.repository.requests.get? request.requestId = some request)
    (hrequests : s'.repository.requests =
      s.repository.requests.set request.requestId request')
    (hid : request'.requestId = request.requestId) (hscope : request'.scope = request.scope)
    (hindex : s'.repository.sourceRequests = s.repository.sourceRequests)
    (hdrawn : s.drawn ≤ s'.drawn)
    (hholds : ∀ {k hold}, s'.repository.holds.get? k = some hold →
      hold.holdId = k ∧ ∃ n < s'.drawn, k = prim.tokens.id "legal-hold" n)
    (hheld : ∀ scope, scope ≠ request.scope → (Held s'.repository scope ↔ Held s.repository scope))
    (hlawful : Lawful s'.repository request') : Consistent prim s' := by
  have hget : ∀ {k q}, s'.repository.requests.get? k = some q →
      (k = request.requestId ∧ q = request') ∨
        (k ≠ request.requestId ∧ s.repository.requests.get? k = some q) := by
    intro k q hk
    rw [hrequests, Dict.get?_set] at hk
    split at hk
    · next heq => exact Or.inl ⟨heq.symm, (Option.some.inj hk).symm⟩
    · next hne => exact Or.inr ⟨Ne.symm hne, hk⟩
  refine ⟨⟨fun hk => ?_, fun hk => (hholds hk).1, fun hk => ?_, fun hk => (hholds hk).2,
    fun hk => ?_, fun hs => ?_⟩, fun hk => ?_⟩
  · rcases hget hk with ⟨rfl, rfl⟩ | ⟨-, hk⟩
    · exact hid
    · exact h.request_id hk
  · rcases hget hk with ⟨rfl, rfl⟩ | ⟨-, hk⟩
    · obtain ⟨n, hlt, hn⟩ := h.request_drawn found
      exact ⟨n, Nat.lt_of_lt_of_le hlt hdrawn, hn⟩
    · obtain ⟨n, hlt, hn⟩ := h.request_drawn hk
      exact ⟨n, Nat.lt_of_lt_of_le hlt hdrawn, hn⟩
  · rw [hindex]
    rcases hget hk with ⟨rfl, rfl⟩ | ⟨-, hk⟩
    · rw [hscope]
      exact h.indexed found
    · exact h.indexed hk
  · rw [hindex] at hs
    obtain ⟨q, hq, hqs⟩ := h.named hs
    have hqk := h.request_id hq
    subst hqk
    rw [hrequests]
    by_cases heq : request.requestId = q.requestId
    · rw [← heq] at hq ⊢
      rw [found] at hq
      cases hq
      exact ⟨request', Dict.get?_set_self .., hscope.trans hqs⟩
    · exact ⟨q, by rw [Dict.get?_set_of_ne _ heq, hq], hqs⟩
  · rcases hget hk with ⟨rfl, rfl⟩ | ⟨hne, hk⟩
    · exact hlawful
    · refine (h.lawful hk).congr (hheld _ fun heq => hne ?_)
      exact h.toIndexed.scope_inj hk found heq

theorem setRequest (h : Consistent prim s) {request : DeletionRequest}
    (found : s.repository.requests.get? request.requestId = some request)
    (hrequests : s'.repository.requests =
      s.repository.requests.set request.requestId request')
    (hid : request'.requestId = request.requestId) (hscope : request'.scope = request.scope)
    (hindex : s'.repository.sourceRequests = s.repository.sourceRequests)
    (hholds : s'.repository.holds = s.repository.holds) (hdrawn : s'.drawn = s.drawn)
    (hlawful : Lawful s.repository request') : Consistent prim s' := by
  refine h.rewrite found hrequests hid hscope hindex (Nat.le_of_eq hdrawn.symm) ?_
    (fun _ _ => Held.congr hholds) (hlawful.congr (Held.congr hholds))
  intro k hold hk
  rw [hholds] at hk
  rw [hdrawn]
  exact ⟨h.hold_id hk, h.hold_drawn hk⟩

theorem changeHolds (h : Consistent prim s) (hrequests : s'.repository.requests = s.repository.requests)
    (hindex : s'.repository.sourceRequests = s.repository.sourceRequests)
    (hdrawn : s.drawn ≤ s'.drawn)
    (hholds : ∀ {k hold}, s'.repository.holds.get? k = some hold →
      hold.holdId = k ∧ ∃ n < s'.drawn, k = prim.tokens.id "legal-hold" n)
    (hlawful : ∀ {k request}, s.repository.requests.get? k = some request →
      Lawful s'.repository request) : Consistent prim s' where
  request_id hk := h.request_id (by rwa [hrequests] at hk)
  hold_id hk := (hholds hk).1
  request_drawn hk := by
    rw [hrequests] at hk
    obtain ⟨n, hlt, hn⟩ := h.request_drawn hk
    exact ⟨n, Nat.lt_of_lt_of_le hlt hdrawn, hn⟩
  hold_drawn hk := (hholds hk).2
  indexed hk := by
    rw [hindex]
    exact h.indexed (by rwa [hrequests] at hk)
  named hs := by
    rw [hindex] at hs
    rw [hrequests]
    exact h.named hs
  lawful hk := hlawful (by rwa [hrequests] at hk)

theorem insertRequest (h : Consistent prim s) {request : DeletionRequest}
    (hrequests : s'.repository.requests =
      s.repository.requests.set request.requestId request)
    (hid : request.requestId = prim.tokens.id "deletion" s.drawn)
    (hnone : s.repository.sourceRequests.get? request.scope = none)
    (hindex : s'.repository.sourceRequests =
      s.repository.sourceRequests.set request.scope request.requestId)
    (hholds : s'.repository.holds = s.repository.holds) (hdrawn : s'.drawn = s.drawn + 1)
    (hlawful : Lawful s.repository request) : Consistent prim s' := by
  have hfresh : s.repository.requests.get? request.requestId = none := by
    rw [hid]
    exact h.request_fresh
  have hget : ∀ {k q}, s'.repository.requests.get? k = some q →
      (k = request.requestId ∧ q = request) ∨ s.repository.requests.get? k = some q := by
    intro k q hk
    rw [hrequests, Dict.get?_set] at hk
    split at hk
    · next heq => exact Or.inl ⟨heq.symm, (Option.some.inj hk).symm⟩
    · exact Or.inr hk
  refine ⟨⟨fun hk => ?_, fun hk => ?_, fun hk => ?_, fun hk => ?_, fun hk => ?_, fun hs => ?_⟩,
    fun hk => ?_⟩
  · rcases hget hk with ⟨rfl, rfl⟩ | hk
    · rfl
    · exact h.request_id hk
  · rw [hholds] at hk
    exact h.hold_id hk
  · rcases hget hk with ⟨rfl, rfl⟩ | hk
    · exact ⟨s.drawn, by omega, hid⟩
    · obtain ⟨n, hlt, hn⟩ := h.request_drawn hk
      exact ⟨n, by omega, hn⟩
  · rw [hholds] at hk
    obtain ⟨n, hlt, hn⟩ := h.hold_drawn hk
    exact ⟨n, by omega, hn⟩
  · rw [hindex]
    rcases hget hk with ⟨rfl, rfl⟩ | hk
    · exact Dict.get?_set_self ..
    · rw [Dict.get?_set_of_ne, h.indexed hk]
      intro heq
      rw [heq, h.indexed hk] at hnone
      cases hnone
  · rw [hrequests]
    rw [hindex, Dict.get?_set] at hs
    split at hs
    · next heq =>
      cases hs
      exact ⟨request, Dict.get?_set_self .., heq⟩
    · obtain ⟨q, hq, hqs⟩ := h.named hs
      refine ⟨q, ?_, hqs⟩
      rw [Dict.get?_set_of_ne, hq]
      rintro rfl
      rw [hfresh] at hq
      cases hq
  · rcases hget hk with ⟨rfl, rfl⟩ | hk
    · exact hlawful.congr (Held.congr hholds)
    · exact (h.lawful hk).congr (Held.congr hholds)

end Consistent

theorem held_insert {hold : LegalHold} (hfresh : r.holds.get? hold.holdId = none)
    (hholds : r'.holds = r.holds.set hold.holdId hold) (hactive : hold.state = .active)
    {scope : Scope} : Held r' scope ↔ Held r scope ∨ scope = hold.scope := by
  constructor
  · rintro ⟨k, found, hk, hscope, hstate⟩
    rw [hholds, Dict.get?_set] at hk
    split at hk
    · cases hk
      exact Or.inr hscope.symm
    · exact Or.inl ⟨k, found, hk, hscope, hstate⟩
  · rintro (⟨k, found, hk, hscope, hstate⟩ | rfl)
    · refine ⟨k, found, ?_, hscope, hstate⟩
      rw [hholds, Dict.get?_set_of_ne, hk]
      rintro rfl
      rw [hfresh] at hk
      cases hk
    · exact ⟨hold.holdId, hold, by rw [hholds, Dict.get?_set_self], rfl, hactive⟩

theorem held_release {hold : LegalHold} (found : r.holds.get? hold.holdId = some hold)
    (hholds : r'.holds = r.holds.set hold.holdId hold.released) {scope : Scope}
    (hne : scope ≠ hold.scope) : Held r' scope ↔ Held r scope := by
  constructor
  · rintro ⟨k, q, hk, hscope, hstate⟩
    rw [hholds, Dict.get?_set] at hk
    split at hk
    · cases hk
      exact absurd hscope.symm hne
    · exact ⟨k, q, hk, hscope, hstate⟩
  · rintro ⟨k, q, hk, hscope, hstate⟩
    refine ⟨k, q, ?_, hscope, hstate⟩
    rw [hholds, Dict.get?_set_of_ne, hk]
    rintro rfl
    rw [found] at hk
    cases hk
    exact hne hscope.symm

/-- What one call of the cleanup port has to find: a request that no hold protects and whose grace
period has elapsed, and a caller with verified administrative rights. -/
structure CalledSafely (i : Invocation) : Prop where
  found : ∃ request, i.moment.requests.get? i.requestId = some request ∧
    (∃ item ∈ request.inventory.values, item.value = i.item) ∧
    ¬ Held i.moment request.scope ∧ request.graceUntil ≤ i.reading
  admin : i.context.organizationAdmin = true
  verified : i.stepUpVerified = true

/-- What the arguments of a `purge` make of its calls of the cleanup port. -/
structure MadeBy (env : Env) (context : RetentionContext) (verified : Bool) (r : Repository)
    (i : Invocation) : Prop where
  context : i.context = context
  verified : i.stepUpVerified = verified
  reading : i.reading = env.clock 0
  holds : i.moment.holds = r.holds

section Purge

variable {service : Service} {env : Env} {context : RetentionContext} {verified : Bool}
  {r : Repository} {request : DeletionRequest}

/-- What the loop of `purge` keeps: everything of the request but its inventory, and that it only
adds safe calls for that request. -/
structure LoopKeeps (env : Env) (context : RetentionContext) (verified : Bool) (r : Repository)
    (request : DeletionRequest) (before : List Invocation) (loop : PurgeLoop) : Prop where
  request_id : loop.request.requestId = request.requestId
  scope : loop.request.scope = request.scope
  grace : loop.request.graceUntil = request.graceUntil
  invocations : ∃ added, loop.invocations = before ++ added ∧ ∀ i ∈ added,
    i.requestId = request.requestId ∧ MadeBy env context verified r i ∧ CalledSafely i

theorem purgeItem_keeps (hsensitive : Sensitive context verified)
    (hallowed : PurgeAllowed service env r request) {before : List Invocation} {loop : PurgeLoop}
    (h : LoopKeeps env context verified r request before loop) (item : CleanupItem) :
    LoopKeeps env context verified r request before
      (purgeItem env context verified r loop item) := by
  unfold purgeItem
  split
  · exact h
  split
  · exact ⟨h.request_id, h.scope, h.grace, h.invocations⟩
  refine ⟨h.request_id, h.scope, h.grace, ?_⟩
  obtain ⟨added, hadded, hsafe⟩ := h.invocations
  refine ⟨added ++ [invocationOf env context verified r loop item], ?_, fun i hi => ?_⟩
  · simp only [hadded, List.append_assoc]
  rcases List.mem_append.1 hi with hi | hi
  · exact hsafe i hi
  rw [List.mem_singleton] at hi
  subst hi
  refine ⟨h.request_id, ⟨rfl, rfl, rfl, rfl⟩, ⟨⟨_, Dict.get?_set_self .., ?_, ?_, ?_⟩,
    hsensitive.admin, hsensitive.verified⟩⟩
  · exact ⟨_, Dict.mem_values_of_get? (Dict.get?_set_self ..), rfl⟩
  · have hheld := not_held_iff.1 hallowed.unheld
    rw [← h.scope] at hheld
    exact hheld
  · exact Int.le_trans (Int.le_of_eq h.grace) hallowed.elapsed

theorem purgeItems_keeps (hsensitive : Sensitive context verified)
    (hallowed : PurgeAllowed service env s.repository request) :
    LoopKeeps env context verified s.repository request s.invocations
      (purgeItems env context verified s request) := by
  have key : ∀ (items : List CleanupItem) (loop : PurgeLoop),
      LoopKeeps env context verified s.repository request s.invocations loop →
      LoopKeeps env context verified s.repository request s.invocations
        (items.foldl (purgeItem env context verified s.repository) loop) := by
    intro items
    induction items with
    | nil => exact fun _ h => h
    | cons item items ih => exact fun loop h => ih _ (purgeItem_keeps hsensitive hallowed h item)
  exact key _ _ ⟨rfl, rfl, rfl, [], (List.append_nil _).symm, by simp⟩

theorem purgeItems_cleaned (h : request.cleaned) :
    purgeItems env context verified s request =
      { request := { request with purgeStarted := true, state := .cleanupPending }
        attempts := s.repository.attempts, invocations := s.invocations, answered := 0 } := by
  have key : ∀ (items : List CleanupItem) (loop : PurgeLoop),
      (∀ item ∈ items, item.state = .completed) →
      items.foldl (purgeItem env context verified s.repository) loop = loop := by
    intro items
    induction items with
    | nil => exact fun _ _ => rfl
    | cons item items ih =>
      intro loop hall
      have hitem : purgeItem env context verified s.repository loop item = loop :=
        if_pos (hall item List.mem_cons_self)
      rw [List.foldl_cons, hitem]
      exact ih loop fun i hi => hall i (List.mem_cons_of_mem _ hi)
  exact key _ _ h

end Purge

/-! ## Every call keeps the invariant -/

namespace Lawful

variable {r : Repository} {request : DeletionRequest}

theorem of_blocked (hstate : request.state = .blockedByHold) (hheld : Held r request.scope) :
    Lawful r request := by
  refine ⟨fun h => ?_, fun h => ?_, fun _ => Or.inl hstate, fun _ => hheld⟩ <;>
    rw [h] at hstate <;> cases hstate

theorem cancelled : Lawful r request.cancelled := by
  refine ⟨fun _ => rfl, fun h => ?_, fun _ => Or.inr rfl, fun h => ?_⟩ <;> cases h

theorem of_open (hstate : request.state = .gracePeriod ∨ request.state = .cleanupPending)
    (hheld : ¬ Held r request.scope) : Lawful r request := by
  refine ⟨fun h => ?_, fun h => ?_, fun h => absurd h hheld, fun h => ?_⟩ <;>
    rw [h] at hstate <;> rcases hstate with hstate | hstate <;> cases hstate

theorem unblock {reading : Int} (hheld : ¬ Held r request.scope) :
    Lawful r (request.unblock reading) := by
  refine of_open ?_ hheld
  simp only [DeletionRequest.unblock]
  split
  · exact Or.inl rfl
  · exact Or.inr rfl

theorem acknowledged (h : Lawful r request) {referenceId evidence : String}
    {item : CleanupItem} : Lawful r (request.acknowledged referenceId item evidence) where
  cancelled_active := h.cancelled_active
  purged_cleaned hp := by
    intro i hi
    rcases Dict.mem_values_set.1 hi with rfl | ⟨k, -, hk⟩
    · rfl
    · exact h.purged_cleaned hp i (Dict.mem_values_of_get? hk)
  held := h.held
  blocked := h.blocked

theorem newRequest {service : Service} {env : Env} {context : RetentionContext}
    {sourceId : String} {items : List DerivativeInput} :
    Lawful s.repository (newRequest prim service env context sourceId items s) := by
  by_cases h : s.repository.activeHoldsOn context.tenantId context.workspaceId sourceId ≠ []
  · exact of_blocked (if_pos h) (held_iff.1 h)
  · exact of_open (Or.inl (if_neg h)) fun hh => h (held_iff.2 hh)

theorem finish (hheld : ¬ Held r request.scope) : Lawful r request.finish := by
  by_cases h : request.cleaned
  · have hstate : request.finish.state = .purged := if_pos h
    refine ⟨fun hc => ?_, fun _ => h, fun hh => absurd hh hheld, fun hb => ?_⟩
    · rw [hstate] at hc
      cases hc
    · rw [hstate] at hb
      cases hb
  · exact of_open (Or.inr (if_neg h)) hheld

end Lawful

theorem Indexed.found (h : Indexed prim s) {context : RetentionContext}
    {requestId : String} {request : DeletionRequest}
    (hfound : s.repository.request context requestId = .ok request) :
    s.repository.requests.get? request.requestId = some request := by
  have hget := (Repository.request_eq_ok.1 hfound).1
  rw [h.request_id hget]
  exact hget

namespace Consistent

variable {s : System}

theorem holds_newHold (h : Consistent prim s) {context : RetentionContext} {sourceId k : String}
    {hold : LegalHold}
    (hk : (s.repository.holds.set (newHold prim context sourceId s).holdId
      (newHold prim context sourceId s)).get? k = some hold) :
    hold.holdId = k ∧ ∃ n < s.drawn + 1, k = prim.tokens.id "legal-hold" n := by
  rw [Dict.get?_set] at hk
  split at hk
  · next heq =>
    cases hk
    exact ⟨heq, s.drawn, Nat.lt_succ_self _, heq.symm⟩
  · obtain ⟨n, hlt, hn⟩ := h.hold_drawn hk
    exact ⟨h.hold_id hk, n, Nat.lt_succ_of_lt hlt, hn⟩

theorem holds_released (h : Consistent prim s) {hold : LegalHold} {k : String}
    (found : s.repository.holds.get? hold.holdId = some hold) {hold' : LegalHold}
    (hk : (s.repository.holds.set hold.released.holdId hold.released).get? k = some hold') :
    hold'.holdId = k ∧ ∃ n < s.drawn, k = prim.tokens.id "legal-hold" n := by
  rw [Dict.get?_set] at hk
  split at hk
  · next heq =>
    cases hk
    exact ⟨heq, heq ▸ h.hold_drawn found⟩
  · exact ⟨h.hold_id hk, h.hold_drawn hk⟩

theorem hold (h : Consistent prim s) {sourceId key fingerprint : String}
    {verified : Bool} {request : Option DeletionRequest}
    (admitted : HoldAdmitted i.context sourceId expectedVersion key verified s.repository
      request) :
    Consistent prim (insertHold prim i.env (i.context.actorId, "hold", key) fingerprint
      (newHold prim i.context sourceId s) request s) := by
  have hfresh : s.repository.holds.get? (newHold prim i.context sourceId s).holdId = none :=
    h.hold_fresh
  rcases h.toIndexed.requestOfSource_eq with ⟨hok, hindex⟩ | ⟨found, hok, hget, hscope⟩
  · cases Except.ok.inj (admitted.found.symm.trans hok)
    refine h.changeHolds rfl rfl (Nat.le_succ _) h.holds_newHold fun hk => ?_
    refine (h.lawful hk).congr ((held_insert hfresh rfl rfl).trans (or_iff_left ?_))
    intro heq
    have hi := h.indexed hk
    rw [heq, LegalHold.scope, newHold, hindex] at hi
    cases hi
  · cases Except.ok.inj (admitted.found.symm.trans hok)
    refine h.rewrite hget rfl rfl rfl rfl (Nat.le_succ _) h.holds_newHold (fun scope hne => ?_)
      (Lawful.of_blocked rfl ((held_insert hfresh rfl rfl).2 (Or.inr hscope)))
    refine (held_insert hfresh rfl rfl).trans (or_iff_left fun heq => hne ?_)
    rw [heq, hscope]
    rfl

theorem release (h : Consistent prim s) {holdId key fingerprint : String}
    {verified : Bool} {hold : LegalHold}
    {request : Option DeletionRequest}
    (admitted : ReleaseAdmitted i.context holdId expectedVersion key verified s.repository hold)
    (found : s.repository.requestOfSource i.context hold.sourceId = .ok request) :
    Consistent prim (s.mapRepository fun r => releaseRequest prim i.env
      (i.context.actorId, "release", key) fingerprint hold.holdId request
      (r.setHold hold.released)) := by
  obtain ⟨hgethold, htenant, hworkspace⟩ := Repository.hold_eq_ok.1 admitted.found
  have hid : hold.holdId = holdId := h.hold_id hgethold
  rw [← hid] at hgethold
  have hholdscope : hold.scope = (i.context.tenantId, i.context.workspaceId, hold.sourceId) := by
    rw [LegalHold.scope, htenant, hworkspace]
  rcases h.toIndexed.requestOfSource_eq with ⟨hok, hindex⟩ | ⟨q, hok, hget, hscope⟩
  · cases Except.ok.inj (found.symm.trans hok)
    refine h.changeHolds rfl rfl (Nat.le_refl _) (h.holds_released hgethold) fun hk => ?_
    refine (h.lawful hk).congr (held_release hgethold rfl fun heq => ?_)
    have hi := h.indexed hk
    rw [heq, hholdscope, hindex] at hi
    cases hi
  · cases Except.ok.inj (found.symm.trans hok)
    have hsame : q.scope = hold.scope := hscope.trans hholdscope.symm
    by_cases hlast : (s.repository.setHold hold.released).activeHolds q = []
    · simp only [System.mapRepository, releaseRequest, if_pos hlast]
      refine h.rewrite hget rfl rfl rfl rfl (Nat.le_refl _) (h.holds_released hgethold)
        (fun scope hne => held_release hgethold rfl fun heq => hne (heq.trans hsame.symm)) ?_
      exact Lawful.unblock (not_held_iff.1 hlast)
    · simp only [System.mapRepository, releaseRequest, if_neg hlast]
      refine h.changeHolds rfl rfl (Nat.le_refl _) (h.holds_released hgethold) fun {k p} hk => ?_
      refine (h.lawful hk).congr ?_
      by_cases hp : p.scope = hold.scope
      · have hafter : Held (s.repository.setHold hold.released) q.scope :=
          held_request_iff.1 hlast
        rw [hp, ← hsame]
        exact ⟨fun _ => ⟨hold.holdId, hold, hgethold, hsame.symm, admitted.active⟩,
          fun _ => hafter⟩
      · exact held_release hgethold rfl hp

theorem purge (h : Consistent prim s) {requestId key fingerprint : String}
    {verified : Bool} {request : DeletionRequest}
    (admitted : PurgeAdmitted i.context requestId expectedVersion key verified s.repository
      request)
    (allowed : PurgeAllowed i.service i.env s.repository request) :
    Consistent prim (runPurge prim i.env i.context verified (i.context.actorId, "purge", key)
      fingerprint request s) := by
  have hloop := purgeItems_keeps (s := s) admitted.sensitive allowed
  have hrequests : (runPurge prim i.env i.context verified (i.context.actorId, "purge", key)
      fingerprint request s).repository.requests = s.repository.requests.set request.requestId
        (purgeItems i.env i.context verified s request).request.finish := by
    rw [← hloop.request_id]
    rfl
  refine h.setRequest (h.toIndexed.found admitted.found) hrequests hloop.request_id hloop.scope
    rfl rfl rfl (Lawful.finish ?_)
  rw [hloop.scope]
  exact not_held_iff.1 allowed.unheld

end Consistent

theorem consistent_next (h : Consistent prim s) (i : Input) :
    Consistent prim ((machine prim).next s i) := by
  have heffect := effect_next prim s i
  generalize (machine prim).answer s i = o at heffect
  generalize (machine prim).next s i = s' at heffect ⊢
  cases heffect with
  | unchanged same => exact h.unchanged same
  | requested hnone =>
    exact h.insertRequest rfl rfl hnone rfl rfl rfl Lawful.newRequest
  | cancelled operation admitted =>
    exact h.setRequest (h.toIndexed.found admitted.found) rfl rfl rfl rfl rfl rfl Lawful.cancelled
  | held operation admitted => exact h.hold admitted
  | released operation admitted found => exact h.release admitted found
  | orphaned lost =>
    rcases h.toIndexed.requestOfSource_eq with ⟨hok, -⟩ | ⟨_, hok, -⟩ <;>
      rw [hok] at lost <;> cases lost
  | acknowledged found listed =>
    have hfound := h.toIndexed.found found
    exact h.setRequest hfound rfl rfl rfl rfl rfl rfl (h.lawful hfound).acknowledged
  | blocked operation admitted active =>
    exact h.setRequest (h.toIndexed.found admitted.found) rfl rfl rfl rfl rfl rfl
      (Lawful.of_blocked rfl (held_request_iff.1 active))
  | purged operation admitted allowed => exact h.purge admitted allowed

theorem consistent_run (is : List Input) : Consistent prim ((machine prim).run is) :=
  (machine prim).run_induction Consistent.init (fun _ i h => consistent_next h i) is

end DaonUser.Retention
