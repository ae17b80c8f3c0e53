import DaonUser.Egress.Model

/-!
# The reference store of egress policies

`ReferenceEgressPolicyRepository`. Its replay key has the tenant, the actor, the scope type and the
idempotency key of a call, and not the workspace: a call is answered with another workspace's binding when
that workspace has recorded the same request under the key. `reference_lawful_iff` says that nothing else
goes wrong.
-/

namespace DaonUser.Egress

open Lib

/-! ## The store -/

/-- The key of `_idempotency`. -/
structure ReplayKey where
  tenantId : String
  actorId : String
  scopeType : ScopeType
  idempotencyKey : String
  deriving DecidableEq

def Call.replayKey (call : Call) : ReplayKey :=
  ⟨call.context.tenantId, call.context.actorId, call.scopeType, call.idempotencyKey⟩

structure Reference where
  current : Dict Scope EgressPolicyBindingView
  idempotency : Dict ReplayKey (String × EgressPolicyBindingView)
  auditOutcomes : List (String × String)
  writeCount : Nat

namespace Reference

/-- `f"{kind}-{scope_type}-{version}"`. -/
def identifier (kind : String) (scopeType : ScopeType) (version : Nat) : String :=
  kind ++ "-" ++ scopeType.text ++ "-" ++ toString version

def stored (scope : Scope) (version : Nat) (payload : EgressPolicyPayload) :
    EgressPolicyBindingView where
  scope := scope
  policyVersionId := identifier "policy" scope.scopeType version
  policyVersion := version
  policyState := "active"
  bindingId := identifier "binding" scope.scopeType version
  bindingVersion := version
  active := true
  current := true
  payload := payload

def empty : Reference := ⟨Dict.empty, Dict.empty, [], 0⟩

def seed (context : EgressPolicyContext) (scopeType : ScopeType) (payload : EgressPolicyPayload)
    (s : Reference) : Reference :=
  let scope := context.scope scopeType
  { s with current := s.current.set scope (stored scope 1 payload) }

def createAndActivate (sha256 : String → String) (call : Call) (s : Reference) :
    Except EgressPolicyError EgressPolicyBindingView × Reference :=
  let fingerprint := call.fingerprint sha256
  match s.idempotency.get? call.replayKey with
  | some replay =>
    if replay.1 ≠ fingerprint then (.error .idempotencyKeyReused, s) else (.ok replay.2, s)
  | none =>
    match s.current.get? call.scope with
    | none => (.error .unavailable, s)
    | some current =>
      if current.etag sha256 ≠ call.expectedEtag then (.error .versionConflict, s)
      else
        let view := stored call.scope (current.bindingVersion + 1) call.payload
        (.ok view, { s with
          current := s.current.set call.scope view
          idempotency := s.idempotency.set call.replayKey (fingerprint, view)
          auditOutcomes := s.auditOutcomes ++ [("egress_policy.activate", "succeeded")]
          writeCount := s.writeCount + 1 })

def machine (sha256 : String → String) : Machine Reference Step Answer where
  init := empty
  step s step := match step with
    | .seed context scopeType payload => (none, seed context scopeType payload s)
    | .call call _ =>
      (some (createAndActivate sha256 call s).1, (createAndActivate sha256 call s).2)

def store : Store Reference where
  currents s scope := (s.current.get? scope).toList
  recorded s call := (s.idempotency.get? call.replayKey).map (·.1)
  sameKey call call' := call.replayKey = call'.replayKey

theorem recorded_store (s : Reference) (call : Call) :
    store.recorded s call = (s.idempotency.get? call.replayKey).map (·.1) := rfl

theorem currents_store (s : Reference) (scope : Scope) :
    store.currents s scope = (s.current.get? scope).toList := rfl

/-- No other scope has recorded this request under the replay key of the call. -/
def Clear (sha256 : String → String) (s : Reference) (call : Call) : Prop :=
  ∀ replay ∈ s.idempotency.get? call.replayKey, replay.1 = call.fingerprint sha256 →
    replay.2.scope = call.scope

/-! ## What a call does -/

variable {sha256 : String → String} {call : Call} {s s' : Reference}
  {result : Except EgressPolicyError EgressPolicyBindingView}

inductive Turn (sha256 : String → String) (call : Call) (s : Reference) :
    Except EgressPolicyError EgressPolicyBindingView → Reference → Prop
  | replayed (view : EgressPolicyBindingView)
      (found : s.idempotency.get? call.replayKey = some (call.fingerprint sha256, view)) :
      Turn sha256 call s (.ok view) s
  | reused (replay : String × EgressPolicyBindingView)
      (found : s.idempotency.get? call.replayKey = some replay)
      (other : replay.1 ≠ call.fingerprint sha256) : Turn sha256 call s (.error .idempotencyKeyReused) s
  | refused (e : EgressPolicyError) (fresh : s.idempotency.get? call.replayKey = none) :
      Turn sha256 call s (.error e) s
  | activated (old view : EgressPolicyBindingView) (next : Reference)
      (fresh : s.idempotency.get? call.replayKey = none)
      (current : s.current.get? call.scope = some old)
      (made : view = stored call.scope (old.bindingVersion + 1) call.payload)
      (written : next.current = s.current.set call.scope view)
      (recorded : next.idempotency = s.idempotency.set call.replayKey (call.fingerprint sha256, view)) :
      Turn sha256 call s (.ok view) next

theorem turn (sha256 : String → String) (call : Call) (s : Reference) :
    Turn sha256 call s (createAndActivate sha256 call s).1 (createAndActivate sha256 call s).2 := by
  unfold createAndActivate
  dsimp only
  split
  · next replay hfound =>
    split
    · next hother => exact .reused replay hfound hother
    · next hsame => exact .replayed replay.2 (by rw [hfound, ← not_not.1 hsame])
  · next hfresh =>
    split
    · exact .refused _ hfresh
    · next current hcurrent =>
      split
      · exact .refused _ hfresh
      · exact .activated current _ _ hfresh hcurrent rfl rfl rfl

theorem Turn.lawful (h : Turn sha256 call s result s') (hclear : Clear sha256 s call) :
    LawfulCall store sha256 call s result s' := by
  cases h with
  | replayed view hfound =>
    have hrecorded : store.recorded s call = some (call.fingerprint sha256) := by
      rw [recorded_store, hfound]
      rfl
    refine ⟨fun view' _ hnone => ?_, fun _ => ⟨rfl, view, rfl⟩, fun fingerprint hmem hne => ?_,
      fun _ _ => rfl, ⟨fun view' heq => ?_, fun _ _ => rfl⟩⟩
    · rw [hrecorded] at hnone
      cases hnone
    · rw [hrecorded] at hmem
      exact absurd (Option.some.inj hmem).symm hne
    · obtain rfl := Except.ok.inj heq
      exact hclear _ hfound rfl
  | reused replay hfound hother =>
    have hrecorded : store.recorded s call = some replay.1 := by
      rw [recorded_store, hfound]
      rfl
    refine ⟨fun view' heq => ?_, fun hsame => ?_, fun _ _ _ => ⟨_, rfl⟩, fun _ _ => rfl,
      ⟨fun view' heq => ?_, fun _ _ => rfl⟩⟩
    · cases heq
    · exact absurd (Option.some.inj (hrecorded.symm.trans hsame)) hother
    · cases heq
  | refused e hfresh =>
    have hrecorded : store.recorded s call = none := by
      rw [recorded_store, hfresh]
      rfl
    refine ⟨fun view' heq => ?_, fun hsame => ?_, fun _ _ _ => ⟨e, rfl⟩, fun _ _ => rfl,
      ⟨fun view' heq => ?_, fun _ _ => rfl⟩⟩
    · cases heq
    · rw [hrecorded] at hsame
      cases hsame
    · cases heq
  | activated old view next hfresh hcurrent hmade hwritten _ =>
    have hrecorded : store.recorded s call = none := by
      rw [recorded_store, hfresh]
      rfl
    refine ⟨fun view' heq _ => ?_, fun hsame => ?_, fun fingerprint hmem => ?_, fun e heq => ?_,
      ⟨fun view' heq => ?_, fun scope hother => ?_⟩⟩
    · obtain rfl := Except.ok.inj heq
      refine ⟨old, by rw [currents_store, hcurrent]; rfl, ?_, by rw [hmade]; rfl⟩
      rw [currents_store, hwritten, Dict.get?_set_self]
      rfl
    · rw [hrecorded] at hsame
      cases hsame
    · rw [hrecorded] at hmem
      cases hmem
    · cases heq
    · obtain rfl := Except.ok.inj heq
      rw [hmade]
      rfl
    · rw [currents_store, hwritten, Dict.get?_set_of_ne _ (Ne.symm hother)]
      rfl

theorem Turn.one (h : Turn sha256 call s result s') (scope : Scope) :
    (store.currents s' scope).length ≤ 1 ∧ (store.currents s scope ≠ [] →
      store.currents s' scope ≠ []) := by
  refine ⟨Option.length_toList_le, fun hsome => ?_⟩
  cases h with
  | replayed => exact hsome
  | reused => exact hsome
  | refused => exact hsome
  | activated old view _ _ _ _ hwritten _ =>
    by_cases hscope : call.scope = scope
    · rw [currents_store, hwritten, hscope, Dict.get?_set_self]
      exact List.cons_ne_nil _ _
    · rw [currents_store, hwritten, Dict.get?_set_of_ne _ hscope]
      exact hsome

theorem Turn.keeps (h : Turn sha256 call s result s') {key : ReplayKey}
    {replay : String × EgressPolicyBindingView} (hkey : s.idempotency.get? key = some replay) :
    s'.idempotency.get? key = some replay := by
  cases h with
  | replayed => exact hkey
  | reused => exact hkey
  | refused => exact hkey
  | activated old view _ hfresh _ _ _ hrecorded =>
    have hne : call.replayKey ≠ key := by
      rintro rfl
      rw [hfresh] at hkey
      cases hkey
    rw [hrecorded, Dict.get?_set_of_ne _ hne]
    exact hkey

/-! ## Runs -/

/-- The binding that a first call has made is recorded. -/
def Leaves (e : Event Reference Step Answer) (s : Reference) : Prop :=
  ∀ call view, IsCall e call (.ok view) → store.recorded e.pre call = none →
    ∃ fingerprint, s.idempotency.get? call.replayKey = some (fingerprint, view)

theorem isCall_event {step : Step} (h : IsCall ((machine sha256).event s step) call result) :
    result = (createAndActivate sha256 call s).1 ∧
      (machine sha256).next s step = (createAndActivate sha256 call s).2 := by
  obtain ⟨⟨aborts, rfl⟩, houtput⟩ := h
  exact ⟨(Option.some.inj houtput).symm, rfl⟩

theorem turn_of_isCall {step : Step} (h : IsCall ((machine sha256).event s step) call result) :
    Turn sha256 call s result ((machine sha256).next s step) := by
  obtain ⟨hresult, hnext⟩ := isCall_event h
  rw [hresult, hnext]
  exact turn sha256 call s

theorem leaves_event (s : Reference) (step : Step) :
    Leaves ((machine sha256).event s step) ((machine sha256).next s step) := by
  intro call view hcall hfresh
  generalize hresult : Except.ok view = result at hcall
  have hturn := turn_of_isCall hcall
  generalize (machine sha256).next s step = s' at hturn ⊢
  cases hturn with
  | replayed view' hfound =>
    have hrecorded : store.recorded s call = none := hfresh
    rw [recorded_store, hfound] at hrecorded
    cases hrecorded
  | reused => cases hresult
  | refused => cases hresult
  | activated old view' _ _ _ _ _ hrecorded =>
    obtain rfl := Except.ok.inj hresult
    exact ⟨_, by rw [hrecorded, Dict.get?_set_self]⟩

theorem Leaves.next {e : Event Reference Step Answer} (h : Leaves e s) (step : Step) :
    Leaves e ((machine sha256).next s step) := by
  intro call view hcall hfresh
  obtain ⟨fingerprint, hfound⟩ := h call view hcall hfresh
  refine ⟨fingerprint, ?_⟩
  cases step with
  | seed context scopeType payload => exact hfound
  | call other aborts => exact (turn sha256 other s).keeps hfound

theorem Leaves.same {e : Event Reference Step Answer} (h : Leaves e s) (step : Step)
    {call call' : Call} {view view' : EgressPolicyBindingView} (hcall : IsCall e call (.ok view))
    (hfresh : store.recorded e.pre call = none)
    (hcall' : IsCall ((machine sha256).event s step) call' (.ok view'))
    (hkey : store.sameKey call call') : view.Same view' := by
  obtain ⟨fingerprint, hfound⟩ := h call view hcall hfresh
  have hfound' : s.idempotency.get? call'.replayKey = some (fingerprint, view) := by
    have hsame : call.replayKey = call'.replayKey := hkey
    rwa [hsame] at hfound
  generalize hresult : Except.ok view' = result at hcall'
  have hturn := turn_of_isCall hcall'
  generalize (machine sha256).next s step = s' at hturn
  cases hturn with
  | replayed view'' hfound'' =>
    obtain rfl := Except.ok.inj hresult
    rw [hfound'] at hfound''
    rw [(Prod.mk.inj (Option.some.inj hfound'')).2]
    rfl
  | reused => cases hresult
  | refused => cases hresult
  | activated _ _ _ hfresh' =>
    rw [hfound'] at hfresh'
    cases hfresh'

/-- Over any run, the reference store does what it has to do exactly where no request of another scope is
taken for a call. -/
theorem lawful_iff (sha256 : String → String) (steps : List Step) :
    Lawful store sha256 ((machine sha256).events steps) ↔
      ∀ e ∈ (machine sha256).events steps, ∀ call result, IsCall e call result →
        Clear sha256 e.pre call := by
  constructor
  · intro h e he call result hcall replay hreplay hsame
    obtain ⟨s, step, -, -, rfl⟩ := (machine sha256).mem_events he
    have hlawful := h.calls _ he call result hcall
    obtain ⟨hresult, -⟩ := isCall_event hcall
    refine hlawful.isolated.1 replay.2 ?_
    rw [hresult, createAndActivate, show s.idempotency.get? call.replayKey = some replay from hreplay]
    dsimp only
    rw [if_neg (not_not.2 hsame)]
  · intro h
    refine ⟨fun e he call result hcall => ?_, fun e he scope => ?_, ?_⟩
    · obtain ⟨s, step, -, -, rfl⟩ := (machine sha256).mem_events he
      exact (turn_of_isCall hcall).lawful (h _ he call result hcall)
    · obtain ⟨s, step, -, -, rfl⟩ := (machine sha256).mem_events he
      cases step with
      | seed context scopeType payload =>
        refine ⟨Option.length_toList_le, fun hsome => ?_⟩
        change ((s.current.set (context.scope scopeType) _).get? scope).toList ≠ []
        by_cases hscope : context.scope scopeType = scope
        · rw [hscope, Dict.get?_set_self]
          exact List.cons_ne_nil _ _
        · rw [Dict.get?_set_of_ne _ hscope]
          exact hsome
      | call call aborts => exact (turn sha256 call s).one scope
    · exact (machine sha256).events_pairwise (I := fun _ => True) trivial (fun _ _ _ => trivial)
        (fun s step _ => leaves_event s step) (fun e s step _ hleft => hleft.next step)
        (fun e s step _ hleft call call' view view' hcall hfresh hcall' hkey =>
          hleft.same step hcall hfresh hcall' hkey) steps

theorem not_lawful_of_not_clear {steps : List Step}
    (h : ¬Clear sha256 ((machine sha256).run steps) call) :
    ¬Lawful store sha256 ((machine sha256).events (steps ++ [.call call false])) := by
  intro hlawful
  refine h ((lawful_iff sha256 _).1 hlawful ((machine sha256).event ((machine sha256).run steps)
    (.call call false)) ?_ call _ ⟨⟨false, rfl⟩, rfl⟩)
  rw [Machine.events_concat]
  exact List.mem_append_right _ (List.mem_singleton_self _)

end Reference

end DaonUser.Egress
