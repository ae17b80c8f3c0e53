import DaonUser.Audit.Chain

/-!
# Audit: the head of a chain fixes the chain

Where the digest tells the hashed texts apart, two chains with one head have the same payloads
(`samePayload_of_headHash`). The text is `Json.canonical`, which fixes a payload up to the order of the
members of its objects; the link to the event before is one of them.
-/

namespace DaonUser.Audit

open Lib Lib.Call

variable {prim : Primitives}

/-- The events have payloads, and these are one up to the order of the members of objects. -/
def SamePayload (event event' : AuditEvent) : Prop :=
  ∃ json json', eventPayload event = .ok json ∧ eventPayload event' = .ok json' ∧
    json.sorted = json'.sorted

def hashedTexts (events : List AuditEvent) : List String :=
  events.filterMap fun event => (eventPayload event).toOption.map Json.canonical

/-- No two of the texts have one digest, and none has the one that stands for no event. -/
structure CollisionFree (prim : Primitives) (texts : List String) : Prop where
  injective : ∀ text ∈ texts, ∀ text' ∈ texts, prim.sha256 text = prim.sha256 text' → text = text'
  genesis : ∀ text ∈ texts, prim.sha256 text ≠ genesisHash

theorem previousEventHash_of_sorted {event event' : AuditEvent} {json json' : Json Number}
    (h : eventPayload event = .ok json) (h' : eventPayload event' = .ok json')
    (hsorted : json.sorted = json'.sorted) : event.previousEventHash = event'.previousEventHash := by
  obtain ⟨before, -, h⟩ := bind_eq_ok.1 h
  obtain ⟨after, -, h⟩ := bind_eq_ok.1 h
  obtain ⟨metadata, -, h⟩ := bind_eq_ok.1 h
  obtain ⟨before', -, h'⟩ := bind_eq_ok.1 h'
  obtain ⟨after', -, h'⟩ := bind_eq_ok.1 h'
  obtain ⟨metadata', -, h'⟩ := bind_eq_ok.1 h'
  cases h
  cases h'
  obtain ⟨value, hvalue, heq⟩ := Json.mem_of_sorted_obj hsorted
    (show ("previous_event_hash", Json.str event.previousEventHash) ∈ _ by simp)
  have hstr : value = .str event'.previousEventHash := by simpa using hvalue
  rw [hstr] at heq
  exact Json.str.inj heq

theorem Linked.text {events : List AuditEvent} {event : AuditEvent} (h : Linked prim events event) :
    ∃ json, eventPayload event = .ok json ∧ event.eventHash = prim.sha256 json.canonical := by
  obtain ⟨json, hjson, hsha⟩ := bind_eq_ok.1 h.eventHash
  exact ⟨json, hjson, (Except.ok.inj hsha).symm⟩

theorem mem_hashedTexts {events : List AuditEvent} {event : AuditEvent} {json : Json Number}
    (hmem : event ∈ events) (hjson : eventPayload event = .ok json) :
    json.canonical ∈ hashedTexts events :=
  List.mem_filterMap.2 ⟨event, hmem, by rw [hjson]; rfl⟩

theorem hashedTexts_append (events events' : List AuditEvent) :
    hashedTexts (events ++ events') = hashedTexts events ++ hashedTexts events' :=
  List.filterMap_append

theorem Linked.eventHash_ne {events : List AuditEvent} {event : AuditEvent} {texts : List String}
    (h : Linked prim events event) (hfree : CollisionFree prim texts)
    (hsub : hashedTexts (events ++ [event]) ⊆ texts) : event.eventHash ≠ genesisHash := by
  obtain ⟨json, hjson, hsha⟩ := h.text
  rw [hsha]
  exact hfree.genesis _ (hsub (mem_hashedTexts (by simp) hjson))

theorem samePayload_of_headHash {texts : List String} (hfree : CollisionFree prim texts)
    {events events' : List AuditEvent} (h : Chained prim events) (h' : Chained prim events')
    (hsub : hashedTexts events ⊆ texts) (hsub' : hashedTexts events' ⊆ texts)
    (hhead : headHash events = headHash events') : List.Forall₂ SamePayload events events' := by
  induction h generalizing events' with
  | nil =>
    cases h' with
    | nil => exact .nil
    | concat _ _ linked' =>
      rw [headHash_nil, headHash_concat] at hhead
      exact absurd hhead.symm (linked'.eventHash_ne hfree hsub')
  | @concat rest event _ _ linked ih =>
    cases h' with
    | nil =>
      rw [headHash_nil, headHash_concat] at hhead
      exact absurd hhead (linked.eventHash_ne hfree hsub)
    | @concat rest' event' chained' _ linked' =>
      rw [headHash_concat, headHash_concat] at hhead
      obtain ⟨json, hjson, hsha⟩ := linked.text
      obtain ⟨json', hjson', hsha'⟩ := linked'.text
      rw [hsha, hsha'] at hhead
      have htext : json.canonical = json'.canonical :=
        hfree.injective _ (hsub (mem_hashedTexts (by simp) hjson)) _
          (hsub' (mem_hashedTexts (by simp) hjson')) hhead
      have hsorted := Json.canonical_inj.1 htext
      have hprevious := previousEventHash_of_sorted hjson hjson' hsorted
      rw [linked.previousEventHash, linked'.previousEventHash] at hprevious
      rw [hashedTexts_append] at hsub hsub'
      have hrest := ih chained' (List.Subset.trans (List.subset_append_left _ _) hsub)
        (List.Subset.trans (List.subset_append_left _ _) hsub') hprevious
      exact List.rel_append hrest (.cons ⟨json, json', hjson, hjson', hsorted⟩ .nil)

/-- Two sequences that verify and have one head have the same payloads, if the digest tells the texts of
the two apart. -/
theorem payloads_of_headHash (prim : Primitives) (events events' : List AuditEvent)
    (hvalid : (verifyIntegrity prim events).valid = true)
    (hvalid' : (verifyIntegrity prim events').valid = true)
    (hhead : (verifyIntegrity prim events).headHash = (verifyIntegrity prim events').headHash)
    (hfree : CollisionFree prim (hashedTexts events ++ hashedTexts events')) :
    events.length = events'.length ∧ List.Forall₂ SamePayload events events' := by
  have h := verifyIntegrity_iff.1 hvalid
  have h' := verifyIntegrity_iff.1 hvalid'
  rw [verifyIntegrity_chained h, verifyIntegrity_chained h'] at hhead
  have hpayload := samePayload_of_headHash hfree h h' (List.subset_append_left _ _)
    (List.subset_append_right _ _) hhead
  exact ⟨hpayload.length_eq, hpayload⟩

namespace Sample

def fields (metadata : Value) : AuditFields where
  eventId := "e-1"
  occurredAt := { utc := ⟨2026, 1, 2, 3, 4, 5, 6, by decide⟩, utcoffset := some 0 }
  actorId := "user-1"
  actorType := .user
  tenantId := "tenant-1"
  workspaceId := none
  action := "login"
  targetType := "session"
  targetId := "s-1"
  outcome := .succeeded
  traceId := "trace-1"
  policyVersion := "v1"
  before := .none
  after := .none
  metadata := metadata

def event (metadata : Value) (eventHash : String) : AuditEvent :=
  ⟨fields metadata, 1, genesisHash, eventHash⟩

def text (x : Value) : String :=
  (((eventPayload (event (.mapping true [(some "x", x)]) genesisHash)).toOption).map
    Json.canonical).getD ""

def listHash : String := "1235cc21cdc59f142877b549a443eadec88c6da247517b6ffc2eae8a044b93a8"

def floatHash : String := "99a5b5f81236967c6408e5cc9f421275aa843772f99a42d71a631a40dafc3f0e"

def intHash : String := "295c799a67e63359ceae4c058b5a7f6fc36fbcca270a1a29b12246bd91c42b82"

def emptyHash : String := "e3b0c44298fc1c149afbf4c8996fb92427ae41e4649b934ca495991b7852b855"

/-- `1e16`. -/
def float : Value := .float (.finite (Decimal.of false 1 16))

/-- `2.5`. -/
def small : Value := .float (.finite (Decimal.of false 25 (-1)))

def primitives : Primitives where
  sha256 t :=
    if t = text (.list [small]) then listHash
    else if t = text float then floatHash
    else if t = text (.int (10 ^ 16)) then intHash
    else emptyHash
  digest t := by split_ifs <;> decide
  casefold s := String.ofList (s.toList.map (·.toLower))
  ipAddress _ := none
  hostname _ := some none

theorem sha256_list : primitives.sha256 (text (.list [small])) = listHash := by
  simp only [primitives, if_true]

/-- A sequence of one event; `x` is a list in its metadata, frozen or not. -/
def frozen : AuditEvent := event (.mapping false [(some "x", .tuple [small])]) listHash

def thawed : AuditEvent := event (.mapping true [(some "x", .list [small])]) listHash

end Sample

/-- An event and the same event before it was frozen. -/
theorem payloads_of_headHash_thawed :
    List.Forall₂ SamePayload [Sample.frozen] [Sample.thawed] := by
  have hfrozen : Chained Sample.primitives [Sample.frozen] :=
    Chained.nil.concat List.not_mem_nil
      ⟨ok_of_toOption (by decide), rfl, rfl, congrArg Except.ok Sample.sha256_list⟩
  have hthawed : Chained Sample.primitives [Sample.thawed] :=
    Chained.nil.concat List.not_mem_nil
      ⟨ok_of_toOption (by decide), rfl, rfl, congrArg Except.ok Sample.sha256_list⟩
  have htexts : hashedTexts [Sample.frozen] ++ hashedTexts [Sample.thawed] =
      List.replicate 2 (Sample.text (.list [Sample.small])) := rfl
  refine (payloads_of_headHash Sample.primitives [Sample.frozen] [Sample.thawed]
    (verifyIntegrity_iff.2 hfrozen) (verifyIntegrity_iff.2 hthawed) ?_ ⟨?_, ?_⟩).2
  · rw [verifyIntegrity_chained hfrozen, verifyIntegrity_chained hthawed]
    rfl
  · intro text htext text' htext' _
    rw [htexts] at htext htext'
    rw [List.eq_of_mem_replicate htext, List.eq_of_mem_replicate htext']
  · intro text htext
    rw [htexts] at htext
    rw [List.eq_of_mem_replicate htext, Sample.sha256_list]
    decide

end DaonUser.Audit
