import DaonUser.Audit.Service

/-!
# Audit: the chain that is built verifies

A projection that was frozen is frozen to itself again when it is thawed (`freezeJson_thawJson`), so an
event passes the checks that its draft passed (`validateDraft_draft`). `Chained` is what
`verify_integrity` checks (`verifyIntegrity_iff`), event by event (`verifyIntegrity_pinpoints`), and every
store is `Chained` (`recorded_run`).
-/

namespace DaonUser.Audit

open Lib Lib.Call

variable {prim : Primitives} {depth : Nat}

/-! ## Frozen projections -/

/-- Entries as the loop over a mapping makes them: distinct keys that pass the checks, and values that
meet the condition. -/
structure Entries (prim : Primitives) (P : Value → Prop) (entries : List (Option String × Value)) :
    Prop where
  nodup : (entries.map Prod.fst).Nodup
  key : ∀ entry ∈ entries, checkKey prim entry.1 = .ok ()
  value : ∀ entry ∈ entries, P entry.2

theorem entries_nil {P : Value → Prop} : Entries prim P [] where
  nodup := List.nodup_nil
  key _ h := absurd h List.not_mem_nil
  value _ h := absurd h List.not_mem_nil

theorem Entries.put {P : Value → Prop} {entries : List (Option String × Value)}
    {key : Option String} {value : Value} (h : Entries prim P entries)
    (hkey : checkKey prim key = .ok ()) (hvalue : P value) :
    Entries prim P (Dict.put key value entries) where
  nodup := (Dict.set ⟨entries, h.nodup⟩ key value).nodup
  key := by
    intro entry hentry
    rcases Dict.mem_put hentry with rfl | hold
    · exact hkey
    · exact h.key entry hold
  value := by
    intro entry hentry
    rcases Dict.mem_put hentry with rfl | hold
    · exact hvalue
    · exact h.value entry hold

/-- The value is frozen to itself when it is thawed. -/
def Settled (prim : Primitives) (depth : Nat) (value : Value) : Prop :=
  freezeJson prim depth (thawJson value) = .ok value

theorem thawItems_eq {entries thawed : List (Option String × Value)}
    (h : ((thawed ++ entries).map Prod.fst).Nodup) :
    thawItems entries thawed = thawed ++ entries.map fun e => (e.1, thawJson e.2) := by
  induction entries generalizing thawed with
  | nil => simp [thawItems]
  | cons entry entries ih =>
    obtain ⟨key, value⟩ := entry
    have hnew : key ∉ thawed.map Prod.fst := by
      intro hmem
      rw [List.map_append, List.map_cons, List.nodup_append] at h
      exact h.2.2 key hmem key List.mem_cons_self rfl
    rw [thawItems, Dict.put_of_not_mem hnew, ih]
    · simp
    · simpa using h

theorem freezeItems_settled {entries frozen : List (Option String × Value)}
    (h : Entries prim (Settled prim (depth + 1)) (frozen ++ entries)) :
    freezeItems prim depth (entries.map fun e => (e.1, thawJson e.2)) frozen =
      .ok (frozen ++ entries) := by
  induction entries generalizing frozen with
  | nil => simp [freezeItems]
  | cons entry entries ih =>
    obtain ⟨key, value⟩ := entry
    have hmem : (key, value) ∈ frozen ++ (key, value) :: entries := by simp
    have hnew : key ∉ frozen.map Prod.fst := by
      intro hmem
      have hnodup := h.nodup
      rw [List.map_append, List.map_cons, List.nodup_append] at hnodup
      exact hnodup.2.2 key hmem key List.mem_cons_self rfl
    have hsplit : frozen ++ (key, value) :: entries = (frozen ++ [(key, value)]) ++ entries := by simp
    rw [hsplit] at h ⊢
    rw [List.map_cons, freezeItems, h.key _ (hsplit ▸ hmem)]
    have hvalue : freezeJson prim (depth + 1) (thawJson value) = .ok value :=
      h.value (key, value) (hsplit ▸ hmem)
    simp only [hvalue, bind, Except.bind]
    rw [Dict.put_of_not_mem hnew]
    exact ih h

mutual

theorem freezeJson_thawJson {depth : Nat} (value : Value) {frozen : Value}
    (h : freezeJson prim depth value = .ok frozen) :
    freezeJson prim depth (thawJson frozen) = .ok frozen := by
  unfold freezeJson at h
  split at h
  · cases h
  · next hdepth =>
    cases value with
    | none => cases h; simp [freezeJson, thawJson, hdepth]
    | bool b => cases h; simp [freezeJson, thawJson, hdepth]
    | int n => cases h; simp [freezeJson, thawJson, hdepth]
    | str s =>
      obtain ⟨_, hstring, hfrozen⟩ := bind_eq_ok.1 h
      cases hfrozen
      simp [freezeJson, thawJson, hdepth, hstring, bind, Except.bind, pure, Except.pure]
    | float f =>
      cases f with
      | finite d => cases h; simp [freezeJson, thawJson, hdepth]
      | infinite negative => cases h
      | nan => cases h
    | mapping isDict items =>
      obtain ⟨entries, hentries, hfrozen⟩ := bind_eq_ok.1 h
      cases hfrozen
      have hsettled := freezeItems_thawJson items hentries entries_nil
      have hthaw : thawItems entries [] = entries.map fun e => (e.1, thawJson e.2) := by
        rw [thawItems_eq (by simpa using hsettled.nodup), List.nil_append]
      have hagain : freezeItems prim depth (entries.map fun e => (e.1, thawJson e.2)) [] =
          .ok entries := freezeItems_settled hsettled
      simp only [thawJson, freezeJson, if_neg hdepth, hthaw, hagain]
      rfl
    | list items =>
      obtain ⟨values, hvalues, hfrozen⟩ := bind_eq_ok.1 h
      cases hfrozen
      have hagain := freezeList_thawList items hvalues
      simp only [thawJson, freezeJson, if_neg hdepth, hagain]
      rfl
    | tuple items => cases h
    | other => cases h

theorem freezeItems_thawJson {depth : Nat} (items : List (Option String × Value))
    {before frozen : List (Option String × Value)}
    (h : freezeItems prim depth items before = .ok frozen)
    (hbefore : Entries prim (Settled prim (depth + 1)) before) :
    Entries prim (Settled prim (depth + 1)) frozen := by
  match items, h with
  | [], h =>
    cases h
    exact hbefore
  | (key, item) :: items, h =>
    obtain ⟨_, hkey, h⟩ := bind_eq_ok.1 h
    obtain ⟨value, hvalue, h⟩ := bind_eq_ok.1 h
    exact freezeItems_thawJson items h (hbefore.put hkey (freezeJson_thawJson item hvalue))

theorem freezeList_thawList {depth : Nat} (items : List Value) {frozen : List Value}
    (h : freezeList prim depth items = .ok frozen) :
    freezeList prim depth (thawList frozen) = .ok frozen := by
  match items, h with
  | [], h =>
    cases h
    rfl
  | item :: items, h =>
    obtain ⟨value, hvalue, h⟩ := bind_eq_ok.1 h
    obtain ⟨values, hvalues, h⟩ := bind_eq_ok.1 h
    cases h
    have hhead := freezeJson_thawJson item hvalue
    have htail := freezeList_thawList items hvalues
    simp only [thawList, freezeList, hhead, htail]
    rfl

end

/-! ## Drafts -/

theorem validateProjection_thawJson {value frozen : Value} {fieldName : String}
    (h : validateProjection prim value fieldName = .ok frozen) :
    validateProjection prim (thawJson frozen) fieldName = .ok frozen := by
  cases value with
  | none =>
    cases h
    rfl
  | mapping isDict items =>
    obtain ⟨value, hvalue, h⟩ := bind_eq_ok.1 h
    obtain ⟨encoded, hencoded, h⟩ := bind_eq_ok.1 h
    split at h
    · cases h
    · next hsize =>
      cases h
      have hagain := freezeJson_thawJson _ hvalue
      obtain ⟨entries, -, hentries⟩ := bind_eq_ok.1 hvalue
      cases hentries
      exact bind_eq_ok.2 ⟨_, hagain, bind_eq_ok.2 ⟨_, hencoded, if_neg hsize⟩⟩
  | bool b => cases h
  | int n => cases h
  | float f => cases h
  | str s => cases h
  | list items => cases h
  | tuple items => cases h
  | other => cases h

theorem validateMetadata_thawJson {value frozen : Value}
    (h : validateMetadata prim value = .ok frozen) :
    validateMetadata prim (thawJson frozen) = .ok frozen := by
  obtain ⟨metadata, hmetadata, h⟩ := bind_eq_ok.1 h
  have hfrozen : metadata = frozen := by
    cases metadata with
    | none => cases h
    | _ => exact Except.ok.inj h
  subst hfrozen
  exact bind_eq_ok.2 ⟨_, validateProjection_thawJson hmetadata, h⟩

theorem validateText_some {value : Option String} {fieldName text : String}
    (h : validateText value fieldName = .ok text) : validateText (some text) fieldName = .ok text := by
  have heq := h
  cases value with
  | none => cases h
  | some value =>
    simp only [validateText] at h
    split at h
    · cases h
    · split at h
      · cases h
      · cases h
        exact heq

theorem validateOptional_some {value : Option (Option String)} {fieldName : String}
    {text : Option String} (h : validateOptional value fieldName = .ok text) :
    validateOptional (some text) fieldName = .ok text := by
  rcases value with _ | _ | value
  · cases h
  · cases h
    rfl
  · obtain ⟨checked, hchecked, h⟩ := bind_eq_ok.1 h
    cases h
    exact bind_eq_ok.2 ⟨checked, validateText_some hchecked, rfl⟩

theorem validateEnum_some {α : Type} {value : Option α} {fieldName : String} {checked : α}
    (h : validateEnum value fieldName = .ok checked) :
    validateEnum (some checked) fieldName = .ok checked := by
  cases value with
  | none => cases h
  | some value => rfl

theorem validateUtc_some {value : Option DateTime} {fieldName : String} {checked : DateTime}
    (h : validateUtc value fieldName = .ok checked) :
    validateUtc (some checked) fieldName = .ok checked := by
  cases value with
  | none => cases h
  | some value =>
    simp only [validateUtc] at h
    split at h
    · cases h
    · cases h
      rfl

/-- Each field of the draft passes its checks. -/
structure Validated (prim : Primitives) (draft : AuditEventDraft) (fields : AuditFields) : Prop where
  actorType : validateEnum draft.actorType "ACTOR_TYPE" = .ok fields.actorType
  outcome : validateEnum draft.outcome "OUTCOME" = .ok fields.outcome
  workspaceId : validateOptional draft.workspaceId "WORKSPACE_ID" = .ok fields.workspaceId
  metadata : validateMetadata prim draft.metadata = .ok fields.metadata
  eventId : validateText draft.eventId "EVENT_ID" = .ok fields.eventId
  occurredAt : validateUtc draft.occurredAt "OCCURRED_AT" = .ok fields.occurredAt
  actorId : validateText draft.actorId "ACTOR_ID" = .ok fields.actorId
  tenantId : validateText draft.tenantId "TENANT_ID" = .ok fields.tenantId
  action : validateText draft.action "ACTION" = .ok fields.action
  targetType : validateText draft.targetType "TARGET_TYPE" = .ok fields.targetType
  targetId : validateText draft.targetId "TARGET_ID" = .ok fields.targetId
  traceId : validateText draft.traceId "TRACE_ID" = .ok fields.traceId
  policyVersion : validateText draft.policyVersion "POLICY_VERSION" = .ok fields.policyVersion
  before : validateProjection prim draft.before "BEFORE" = .ok fields.before
  after : validateProjection prim draft.after "AFTER" = .ok fields.after

theorem validateDraft_iff {draft : AuditEventDraft} {fields : AuditFields} :
    validateDraft prim draft = .ok fields ↔ Validated prim draft fields := by
  constructor
  · intro h
    obtain ⟨actorType, hactorType, h⟩ := bind_eq_ok.1 h
    obtain ⟨outcome, houtcome, h⟩ := bind_eq_ok.1 h
    obtain ⟨workspaceId, hworkspaceId, h⟩ := bind_eq_ok.1 h
    obtain ⟨metadata, hmetadata, h⟩ := bind_eq_ok.1 h
    obtain ⟨eventId, heventId, h⟩ := bind_eq_ok.1 h
    obtain ⟨occurredAt, hoccurredAt, h⟩ := bind_eq_ok.1 h
    obtain ⟨actorId, hactorId, h⟩ := bind_eq_ok.1 h
    obtain ⟨tenantId, htenantId, h⟩ := bind_eq_ok.1 h
    obtain ⟨action, haction, h⟩ := bind_eq_ok.1 h
    obtain ⟨targetType, htargetType, h⟩ := bind_eq_ok.1 h
    obtain ⟨targetId, htargetId, h⟩ := bind_eq_ok.1 h
    obtain ⟨traceId, htraceId, h⟩ := bind_eq_ok.1 h
    obtain ⟨policyVersion, hpolicyVersion, h⟩ := bind_eq_ok.1 h
    obtain ⟨before, hbefore, h⟩ := bind_eq_ok.1 h
    obtain ⟨after, hafter, h⟩ := bind_eq_ok.1 h
    cases h
    exact ⟨hactorType, houtcome, hworkspaceId, hmetadata, heventId, hoccurredAt, hactorId, htenantId,
      haction, htargetType, htargetId, htraceId, hpolicyVersion, hbefore, hafter⟩
  · intro h
    simp only [validateDraft, h.actorType, h.outcome, h.workspaceId, h.metadata, h.eventId,
      h.occurredAt, h.actorId, h.tenantId, h.action, h.targetType, h.targetId, h.traceId,
      h.policyVersion, h.before, h.after]
    rfl

theorem validateDraft_draft {draft : AuditEventDraft} {fields : AuditFields}
    (h : validateDraft prim draft = .ok fields) : validateDraft prim fields.draft = .ok fields := by
  have hfields := validateDraft_iff.1 h
  refine validateDraft_iff.2 ?_
  exact {
    actorType := validateEnum_some hfields.actorType
    outcome := validateEnum_some hfields.outcome
    workspaceId := validateOptional_some hfields.workspaceId
    metadata := validateMetadata_thawJson hfields.metadata
    eventId := validateText_some hfields.eventId
    occurredAt := validateUtc_some hfields.occurredAt
    actorId := validateText_some hfields.actorId
    tenantId := validateText_some hfields.tenantId
    action := validateText_some hfields.action
    targetType := validateText_some hfields.targetType
    targetId := validateText_some hfields.targetId
    traceId := validateText_some hfields.traceId
    policyVersion := validateText_some hfields.policyVersion
    before := validateProjection_thawJson hfields.before
    after := validateProjection_thawJson hfields.after }

/-! ## Chains -/

/-- The event passes every check of `verify_integrity` but that of its id, after these events. -/
structure Linked (prim : Primitives) (events : List AuditEvent) (event : AuditEvent) : Prop where
  contract : validateEventContract prim event = .ok ()
  sequence : event.sequence = events.length + 1
  previousEventHash : event.previousEventHash = headHash events
  eventHash : calculateEventHash prim event = .ok event.eventHash

/-- Every event is linked to those before it, and has an id of its own. -/
inductive Chained (prim : Primitives) : List AuditEvent → Prop where
  | nil : Chained prim []
  | concat {events : List AuditEvent} {event : AuditEvent} (rest : Chained prim events)
      (fresh : event.eventId ∉ events.map (·.eventId)) (linked : Linked prim events event) :
      Chained prim (events ++ [event])

theorem chained_concat {events : List AuditEvent} {event : AuditEvent} :
    Chained prim (events ++ [event]) ↔
      Chained prim events ∧ event.eventId ∉ events.map (·.eventId) ∧ Linked prim events event := by
  constructor
  · intro h
    generalize hall : events ++ [event] = all at h
    cases h with
    | nil => simp at hall
    | concat rest fresh linked =>
      obtain ⟨rfl, hlast⟩ := List.append_inj' hall rfl
      cases hlast
      exact ⟨rest, fresh, linked⟩
  · rintro ⟨rest, fresh, linked⟩
    exact rest.concat fresh linked

theorem Chained.initial {events rest : List AuditEvent} (h : Chained prim (events ++ rest)) :
    Chained prim events := by
  induction rest using List.reverseRecOn with
  | nil => rwa [List.append_nil] at h
  | append_singleton rest event ih =>
    rw [← List.append_assoc] at h
    exact ih (chained_concat.1 h).1

@[simp] theorem headHash_nil : headHash [] = genesisHash := rfl

@[simp] theorem headHash_concat (events : List AuditEvent) (event : AuditEvent) :
    headHash (events ++ [event]) = event.eventHash := by
  simp [headHash]

theorem checkEvent_iff {events : List AuditEvent} {event : AuditEvent} {seenIds : Finset String} :
    checkEvent prim (events.length + 1) seenIds (headHash events) event = .ok () ↔
      event.eventId ∉ seenIds ∧ Linked prim events event := by
  constructor
  · intro h
    unfold checkEvent at h
    split at h
    · cases h
    · next _ hcontract =>
      split at h
      · cases h
      · next hfresh =>
        split at h
        · cases h
        · next hsequence =>
          split at h
          · cases h
          · next hprevious =>
            split at h
            · cases h
            · next _ hhash =>
              split at h
              · cases h
              · next heq =>
                refine ⟨hfresh, hcontract, ?_, not_not.1 hprevious, ?_⟩
                · exact_mod_cast not_not.1 hsequence
                · rw [hhash, not_not.1 heq]
  · rintro ⟨hfresh, hlinked⟩
    have hsequence : ¬event.sequence ≠ ((events.length + 1 : Nat) : Int) := by
      rw [not_not, hlinked.sequence]
      rfl
    have hprevious := not_not.2 hlinked.previousEventHash
    simp only [checkEvent, hlinked.contract, if_neg hfresh, if_neg hsequence, if_neg hprevious,
      hlinked.eventHash, ne_eq, not_true_eq_false, if_false]

/-- What `verify_integrity` returns for a chain. -/
def validResult (events : List AuditEvent) : IntegrityResult where
  valid := true
  code := .ok
  position := none
  checkedCount := events.length
  headHash := headHash events
  message := "AUDIT_CHAIN_VALID"

def idsOf (events : List AuditEvent) : Finset String := (events.map (·.eventId)).toFinset

@[simp] theorem mem_idsOf {events : List AuditEvent} {eventId : String} :
    eventId ∈ idsOf events ↔ eventId ∈ events.map (·.eventId) := List.mem_toFinset

theorem idsOf_concat (events : List AuditEvent) (event : AuditEvent) :
    idsOf (events ++ [event]) = insert event.eventId (idsOf events) := by
  ext eventId
  simp [idsOf, or_comm]

theorem verifyFrom_cons {checked events : List AuditEvent} {event : AuditEvent}
    (h : event.eventId ∉ checked.map (·.eventId) ∧ Linked prim checked event) :
    verifyFrom prim checked.length (idsOf checked) (headHash checked) (event :: events) =
      verifyFrom prim (checked ++ [event]).length (idsOf (checked ++ [event]))
        (headHash (checked ++ [event])) events := by
  have hcheck := checkEvent_iff.2 ⟨fun hmem => h.1 (mem_idsOf.1 hmem), h.2⟩
  simp only [verifyFrom, hcheck, idsOf_concat, headHash_concat, List.length_append,
    List.length_singleton]

theorem verifyFrom_of_chained {checked events : List AuditEvent}
    (h : Chained prim (checked ++ events)) :
    verifyFrom prim checked.length (idsOf checked) (headHash checked) events =
      validResult (checked ++ events) := by
  induction events generalizing checked with
  | nil =>
    rw [List.append_nil]
    rfl
  | cons event events ih =>
    rw [List.append_cons] at h
    have hlinked := (chained_concat.1 h.initial).2
    rw [verifyFrom_cons hlinked, ih h, ← List.append_cons]

theorem verifyFrom_pinpoints {checked events : List AuditEvent} (hchecked : Chained prim checked)
    (hbroken : ¬Chained prim (checked ++ events)) :
    ∃ good event rest code, checked ++ events = good ++ event :: rest ∧ Chained prim good ∧
      checkEvent prim (good.length + 1) (idsOf good) (headHash good) event = .error code ∧
      verifyFrom prim checked.length (idsOf checked) (headHash checked) events =
        integrityFailure code (some (good.length + 1)) good.length (headHash good) := by
  induction events generalizing checked with
  | nil => exact absurd (by rwa [List.append_nil]) hbroken
  | cons event events ih =>
    cases hcheck : checkEvent prim (checked.length + 1) (idsOf checked) (headHash checked) event with
    | error code =>
      exact ⟨checked, event, events, code, rfl, hchecked, hcheck, by simp only [verifyFrom, hcheck]⟩
    | ok _ =>
      obtain ⟨hfresh, hlinked⟩ := checkEvent_iff.1 hcheck
      have hnew : event.eventId ∉ checked.map (·.eventId) := fun hmem => hfresh (mem_idsOf.2 hmem)
      rw [List.append_cons] at hbroken ⊢
      rw [verifyFrom_cons ⟨hnew, hlinked⟩]
      exact ih (hchecked.concat hnew hlinked) hbroken

theorem chained_of_verifyFrom {checked events : List AuditEvent} (hchecked : Chained prim checked)
    (h : (verifyFrom prim checked.length (idsOf checked) (headHash checked) events).valid = true) :
    Chained prim (checked ++ events) := by
  by_contra hbroken
  obtain ⟨good, event, rest, code, -, -, -, hresult⟩ := verifyFrom_pinpoints hchecked hbroken
  rw [hresult] at h
  cases h

theorem verifyIntegrity_chained {events : List AuditEvent} (h : Chained prim events) :
    verifyIntegrity prim events = validResult events := by
  rw [← List.nil_append events] at h
  exact verifyFrom_of_chained h

theorem verifyIntegrity_iff {events : List AuditEvent} :
    (verifyIntegrity prim events).valid = true ↔ Chained prim events := by
  constructor
  · exact chained_of_verifyFrom .nil
  · intro h
    rw [verifyIntegrity_chained h]
    rfl

/-- What is not a chain is refused at the first event that is not linked to those before it. -/
theorem verifyIntegrity_pinpoints (prim : Primitives) (events : List AuditEvent) :
    Chained prim events ∧ verifyIntegrity prim events = validResult events ∨
    ∃ good event rest code, events = good ++ event :: rest ∧ Chained prim good ∧
      checkEvent prim (good.length + 1) (idsOf good) (headHash good) event = .error code ∧
      verifyIntegrity prim events =
        integrityFailure code (some (good.length + 1)) good.length (headHash good) := by
  by_cases h : Chained prim events
  · exact .inl ⟨h, verifyIntegrity_chained h⟩
  · exact .inr (verifyFrom_pinpoints .nil h)

/-! ## Appending -/

structure Appended (prim : Primitives) (draft : AuditEventDraft) (s : AuditEventStore)
    (event : AuditEvent) : Prop where
  fields : validateDraft prim draft = .ok event.toAuditFields
  fresh : event.eventId ∉ s.eventIds
  sequence : event.sequence = s.events.length + 1
  previousEventHash : event.previousEventHash = headHash s.events
  eventHash : calculateEventHash prim event = .ok event.eventHash
  bounded : s.events.length < maxListLength

theorem append_spec (prim : Primitives) (draft : AuditEventDraft) (s : AuditEventStore) :
    Post (append prim draft) s fun o s' => match o with
      | .ok event => Appended prim draft s event ∧
          s' = ⟨s.events ++ [event], insert event.eventId s.eventIds⟩
      | .error _ => s' = s := by
  refine post_query (fun _ _ => rfl) fun validated hvalidated => ?_
  refine post_get (post_ensure (fun _ => rfl) fun hfresh => ?_)
  refine post_query (fun _ _ => rfl) fun eventHash heventHash => ?_
  refine post_ensure (fun _ => rfl) fun hbounded => post_modify (post_pure ⟨?_, rfl⟩)
  exact ⟨hvalidated, hfresh, rfl, rfl, heventHash, hbounded⟩

theorem isDigest_genesisHash : isDigest genesisHash = true := by decide

theorem validateEventContract_of {draft : AuditEventDraft} {event : AuditEvent}
    (hfields : validateDraft prim draft = .ok event.toAuditFields) (hsequence : 1 ≤ event.sequence)
    (hprevious : isDigest event.previousEventHash = true)
    (hhash : calculateEventHash prim event = .ok event.eventHash) :
    validateEventContract prim event = .ok () := by
  obtain ⟨payload, -, hsha⟩ := bind_eq_ok.1 hhash
  have hdigest : isDigest event.eventHash = true := by
    rw [← Except.ok.inj hsha]
    exact prim.digest _
  rw [validateEventContract, if_neg (not_lt.2 hsequence), if_neg (by simp [hprevious]),
    if_neg (by simp [hdigest]), validateDraft_draft hfields]
  rfl

/-- The ids of the store are those of its events. -/
structure Consistent (prim : Primitives) (s : AuditEventStore) : Prop where
  chained : Chained prim s.events
  eventIds : s.eventIds = idsOf s.events

theorem Chained.isDigest_headHash {events : List AuditEvent} (h : Chained prim events) :
    isDigest (headHash events) = true := by
  cases h with
  | nil => exact isDigest_genesisHash
  | concat _ _ linked =>
    obtain ⟨payload, -, hsha⟩ := bind_eq_ok.1 linked.eventHash
    rw [headHash_concat, ← Except.ok.inj hsha]
    exact prim.digest _

theorem Consistent.append {s : AuditEventStore} {draft : AuditEventDraft} {event : AuditEvent}
    (h : Consistent prim s) (happended : Appended prim draft s event) :
    Consistent prim ⟨s.events ++ [event], insert event.eventId s.eventIds⟩ where
  chained := by
    refine h.chained.concat ?_ ⟨?_, happended.sequence, happended.previousEventHash,
      happended.eventHash⟩
    · have hfresh := happended.fresh
      rwa [h.eventIds, mem_idsOf] at hfresh
    · refine validateEventContract_of happended.fields ?_ ?_ happended.eventHash
      · rw [happended.sequence]
        omega
      · rw [happended.previousEventHash]
        exact h.chained.isDigest_headHash
  eventIds := by rw [idsOf_concat, h.eventIds]

def acceptedEvents (steps : List (Event AuditEventStore AuditEventDraft
    (Except AuditError AuditEvent))) : List AuditEvent :=
  steps.filterMap (·.output.toOption)

structure Recorded (prim : Primitives) (steps : List (Event AuditEventStore AuditEventDraft
    (Except AuditError AuditEvent))) (s : AuditEventStore) : Prop where
  consistent : Consistent prim s
  accepted : s.events = acceptedEvents steps

theorem recorded_run (prim : Primitives) (drafts : List AuditEventDraft) :
    Recorded prim ((machine prim).events drafts) ((machine prim).run drafts) := by
  refine (machine prim).history_induction (J := Recorded prim) ⟨⟨.nil, rfl⟩, rfl⟩ ?_ drafts
  intro steps s draft h
  have hspec := append_spec prim draft s
  have hstep : (machine prim).event s draft =
      ⟨s, draft, (append prim draft s).1, (append prim draft s).2⟩ := rfl
  have hnext : (machine prim).next s draft = (append prim draft s).2 := rfl
  rw [hstep, hnext]
  unfold Post at hspec
  rcases happend : append prim draft s with ⟨e | event, s'⟩ <;> simp only [happend] at hspec
  · subst hspec
    exact ⟨h.consistent, by simp [acceptedEvents, Except.toOption, h.accepted]⟩
  · obtain ⟨happended, rfl⟩ := hspec
    exact ⟨h.consistent.append happended, by simp [acceptedEvents, Except.toOption, h.accepted]⟩

theorem Chained.contract {events : List AuditEvent} (h : Chained prim events) :
    ∀ event ∈ events, validateEventContract prim event = .ok () := by
  induction h with
  | nil => exact fun _ hmem => absurd hmem List.not_mem_nil
  | concat _ _ linked ih =>
    intro event hmem
    rcases List.mem_append.1 hmem with hold | hnew
    · exact ih event hold
    · rw [List.mem_singleton.1 hnew]
      exact linked.contract

theorem step_spec {drafts : List AuditEventDraft}
    {step : Event AuditEventStore AuditEventDraft (Except AuditError AuditEvent)}
    (h : step ∈ (machine prim).events drafts) :
    match step.output with
    | .ok event => Appended prim step.input step.pre event ∧
        step.post = ⟨step.pre.events ++ [event], insert event.eventId step.pre.eventIds⟩
    | .error _ => step.post = step.pre := by
  obtain ⟨s, draft, -, -, rfl⟩ := (machine prim).mem_events h
  exact append_spec prim draft s

/-- After every sequence of appends the store verifies: as many events as were accepted, and the hash of
the last one. No event that was accepted is rejected when it is checked again, and a rejected append
leaves the store. -/
theorem verifyIntegrity_run (prim : Primitives) (drafts : List AuditEventDraft) :
    let steps := (machine prim).events drafts
    let s := (machine prim).run drafts
    (verifyIntegrity prim s.events).valid = true ∧
      (verifyIntegrity prim s.events).checkedCount = (acceptedEvents steps).length ∧
      (verifyIntegrity prim s.events).headHash = headHash (acceptedEvents steps) ∧
      (∀ step ∈ steps, ∀ event, step.output = .ok event →
        validateDraft prim event.draft = .ok event.toAuditFields ∧
          validateEventContract prim event = .ok ()) ∧
      ∀ step ∈ steps, ∀ e, step.output = .error e → step.post = step.pre := by
  intro steps s
  have h := recorded_run prim drafts
  have hverify := verifyIntegrity_chained h.consistent.chained
  refine ⟨?_, ?_, ?_, ?_, ?_⟩
  · rw [hverify]
    rfl
  · rw [hverify, ← h.accepted]
    rfl
  · rw [hverify, ← h.accepted]
    rfl
  · intro step hstep event hevent
    have hspec := step_spec hstep
    rw [hevent] at hspec
    have hmem : event ∈ s.events := by
      rw [h.accepted]
      exact List.mem_filterMap.2 ⟨step, hstep, by rw [hevent]; rfl⟩
    exact ⟨validateDraft_draft hspec.1.fields, h.consistent.chained.contract event hmem⟩
  · intro step hstep e he
    have hspec := step_spec hstep
    rwa [he] at hspec

end DaonUser.Audit
