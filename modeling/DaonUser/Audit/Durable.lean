import DaonUser.Audit.Restore

/-!
# Audit: the chain of a tenant in the table

`TenantChain`: the rows of a tenant give back a chain. An append for the tenant whose floats are kept
preserves it (`TenantChain.append`), and then `verify_integrity` reads the chain in pages and accepts it
(`verifyTenant_chain`). A float of 10¹⁶ is a counterexample: it comes back as an integer.
-/

namespace DaonUser.Audit.Postgres

open Lib Lib.Call

variable {prim : Primitives} {tenantId : String}

/-! ## Appending -/

structure Inserted (prim : Primitives) (draft : AuditEventDraft) (s : Tables) (event : AuditEvent)
    (row : Row) : Prop where
  fields : validateDraft prim draft = .ok event.toAuditFields
  sequence : event.sequence =
    ((orderBySequence (s.ofTenant event.tenantId)).getLast?.map (·.sequence + 1)).getD 1
  previousEventHash : event.previousEventHash =
    ((orderBySequence (s.ofTenant event.tenantId)).getLast?.map (·.eventHash)).getD genesisHash
  eventHash : calculateEventHash prim event = .ok event.eventHash
  row : toRow event = .ok row
  bounded : event.sequence ≤ maxBigint
  fresh : event.eventId ∉ s.rows.map (·.eventId)

theorem append_spec (prim : Primitives) (draft : AuditEventDraft) (failed : Bool) (s : Tables) :
    Post (append prim draft failed) s fun o s' => match o with
      | .ok event => ∃ row, Inserted prim draft s event row ∧ s' = ⟨s.rows ++ [row]⟩
      | .error _ => s' = s := by
  refine post_query (fun _ _ => rfl) fun validated hvalidated => ?_
  refine post_ensure (fun _ => rfl) fun _ => post_get ?_
  refine post_query (fun _ _ => rfl) fun eventHash heventHash => ?_
  refine post_query (fun _ _ => rfl) fun row hrow => ?_
  refine post_ensure (fun _ => rfl) fun hbounded => post_ensure (fun _ => rfl) fun hfresh => ?_
  exact post_modify (post_pure
    ⟨row, ⟨hvalidated, rfl, rfl, heventHash, hrow, hbounded, hfresh⟩, rfl⟩)

theorem toRow_columns {event : AuditEvent} {row : Row} (h : toRow event = .ok row) :
    row.tenantId = event.tenantId ∧ row.eventId = event.eventId ∧ row.sequence = event.sequence ∧
      row.eventHash = event.eventHash := by
  obtain ⟨beforeValue, -, h⟩ := bind_eq_ok.1 h
  obtain ⟨afterValue, -, h⟩ := bind_eq_ok.1 h
  obtain ⟨metadata, -, h⟩ := bind_eq_ok.1 h
  cases h
  exact ⟨rfl, rfl, rfl, rfl⟩

/-! ## The chain of a tenant -/

structure ReadsAs (prim : Primitives) (row : Row) (event : AuditEvent) : Prop where
  read : eventFromRow prim row = .ok event
  eventId : row.eventId = event.eventId
  sequence : row.sequence = event.sequence
  eventHash : row.eventHash = event.eventHash

/-- The rows of the tenant are read as a chain, which the numbers of a `bigint` are enough for. -/
structure TenantChain (prim : Primitives) (tenantId : String) (s : Tables)
    (events : List AuditEvent) : Prop where
  rows : List.Forall₂ (ReadsAs prim) (s.ofTenant tenantId) events
  chained : Chained prim events
  bounded : events.length ≤ maxListLength

theorem map_eq_of_forall₂ {α β γ : Type} {R : α → β → Prop} {f : α → γ} {g : β → γ}
    (hR : ∀ a b, R a b → f a = g b) {as : List α} {bs : List β} (h : List.Forall₂ R as bs) :
    as.map f = bs.map g := by
  induction h with
  | nil => rfl
  | cons hab _ ih => rw [List.map_cons, List.map_cons, hR _ _ hab, ih]

theorem getLast?_eq_of_forall₂ {α β γ : Type} {R : α → β → Prop} {f : α → γ} {g : β → γ}
    (hR : ∀ a b, R a b → f a = g b) {as : List α} {bs : List β} (h : List.Forall₂ R as bs) :
    as.getLast?.map f = bs.getLast?.map g := by
  rw [← List.getLast?_map, map_eq_of_forall₂ hR h, List.getLast?_map]

namespace TenantChain

variable {s : Tables} {events : List AuditEvent}

theorem orderBySequence_eq (h : TenantChain prim tenantId s events) :
    orderBySequence (s.ofTenant tenantId) = s.ofTenant tenantId := by
  have hmap := map_eq_of_forall₂ (fun _ _ hrow => hrow.sequence) h.rows
  have hsorted : ((s.ofTenant tenantId).map (·.sequence)).Pairwise (· ≤ ·) := by
    rw [hmap, List.pairwise_map]
    exact h.chained.sorted.imp le_of_lt
  exact (List.pairwise_map.1 hsorted).insertionSort_eq

theorem last (h : TenantChain prim tenantId s events) :
    ((s.ofTenant tenantId).getLast?.map (·.sequence + 1)).getD 1 = (events.length : Int) + 1 ∧
      ((s.ofTenant tenantId).getLast?.map (·.eventHash)).getD genesisHash = headHash events := by
  have hsequence := getLast?_eq_of_forall₂ (f := fun row : Row => row.sequence + 1)
    (g := fun event : AuditEvent => event.sequence + 1)
    (fun _ _ hrow => congrArg (· + 1) hrow.sequence) h.rows
  have hhash := getLast?_eq_of_forall₂ (fun _ _ hrow => hrow.eventHash) h.rows
  rw [hsequence, hhash]
  refine ⟨?_, rfl⟩
  cases h.chained with
  | nil => rfl
  | concat _ _ linked =>
    rw [List.getLast?_concat, List.length_append, List.length_singleton, Option.map_some,
      Option.getD_some, linked.sequence]
    rfl

theorem append_other (h : TenantChain prim tenantId s events) {row : Row}
    (hother : row.tenantId ≠ tenantId) : TenantChain prim tenantId ⟨s.rows ++ [row]⟩ events := by
  have hrows : Tables.ofTenant ⟨s.rows ++ [row]⟩ tenantId = s.ofTenant tenantId := by
    simp [Tables.ofTenant, hother]
  exact ⟨hrows ▸ h.rows, h.chained, h.bounded⟩

theorem append (h : TenantChain prim tenantId s events) {draft : AuditEventDraft}
    {event : AuditEvent} {row : Row} (hinserted : Inserted prim draft s event row)
    (htenant : event.tenantId = tenantId) (hfloats : KeepsDraft draft) :
    ∃ event', TenantChain prim tenantId ⟨s.rows ++ [row]⟩ (events ++ [event']) := by
  obtain ⟨hrowTenant, hrowId, hrowSequence, hrowHash⟩ := toRow_columns hinserted.row
  obtain ⟨hsequence, hprevious⟩ := h.last
  have hnumber : event.sequence = events.length + 1 := by
    rw [hinserted.sequence, htenant, h.orderBySequence_eq, hsequence]
  have hlink : event.previousEventHash = headHash events := by
    rw [hinserted.previousEventHash, htenant, h.orderBySequence_eq, hprevious]
  obtain ⟨before, after, metadata, hread, hcontract, hhash⟩ :=
    eventFromRow_toRow hinserted.fields hfloats (by omega) (hlink ▸ h.chained.isDigest_headHash)
      hinserted.eventHash hinserted.row
  have hids := map_eq_of_forall₂ (fun _ _ hrow => hrow.eventId) h.rows
  have hfresh : event.eventId ∉ events.map (·.eventId) := by
    rw [← hids]
    intro hmem
    obtain ⟨old, hold, heq⟩ := List.mem_map.1 hmem
    exact hinserted.fresh (List.mem_map.2 ⟨old, (List.mem_filter.1 hold).1, heq⟩)
  have hrows : Tables.ofTenant ⟨s.rows ++ [row]⟩ tenantId = s.ofTenant tenantId ++ [row] := by
    simp [Tables.ofTenant, hrowTenant, htenant]
  refine ⟨{ event with before := before, after := after, metadata := metadata }, ?_, ?_, ?_⟩
  · rw [hrows]
    exact List.rel_append h.rows (.cons ⟨hread, hrowId, hrowSequence, hrowHash⟩ .nil)
  · exact h.chained.concat hfresh ⟨hcontract, hnumber, hlink, hhash⟩
  · have hbounded := hinserted.bounded
    rw [hnumber, maxBigint] at hbounded
    rw [List.length_append, List.length_singleton, maxListLength]
    omega

/-! ## Reading the chain -/

theorem mapM_of_readsAs {rows : List Row} {events : List AuditEvent}
    (h : List.Forall₂ (ReadsAs prim) rows events) : rows.mapM (eventFromRow prim) = .ok events := by
  induction h with
  | nil => rfl
  | cons hrow _ ih =>
    rw [List.mapM_cons, hrow.read, ih]
    rfl

abbrev rest (k : Int) (events : List AuditEvent) : List AuditEvent :=
  Pages.after (·.sequence) (fun _ => true) k events

abbrev nextSequence (k : Int) (events : List AuditEvent) : Option Int :=
  Pages.next (·.sequence) (fun _ => true) maxPageLimit k events

theorem selected (h : TenantChain prim tenantId s events) (k : Int) :
    List.Forall₂ (ReadsAs prim)
      (orderBySequence (s.rows.filter fun row => k < row.sequence && MatchesRow (tenantQuery tenantId) row))
      (rest k events) := by
  have hfilter : (s.rows.filter fun row => k < row.sequence && MatchesRow (tenantQuery tenantId) row) =
      (s.ofTenant tenantId).filter fun row => decide (k < row.sequence) := by
    rw [Tables.ofTenant, List.filter_filter]
    refine List.filter_congr fun row _ => ?_
    simp only [MatchesRow, tenantQuery, Option.all_none, Bool.and_true]
    rfl
  have hrows : List.Forall₂ (ReadsAs prim)
      ((s.ofTenant tenantId).filter fun row => decide (k < row.sequence)) (rest k events) := by
    refine List.rel_filter (fun row event hrow => ?_) h.rows
    simp [hrow.sequence]
  have hmap := map_eq_of_forall₂ (fun _ _ hrow => hrow.sequence) hrows
  have hsorted : (((s.ofTenant tenantId).filter fun row => decide (k < row.sequence)).map
      (·.sequence)).Pairwise (· ≤ ·) := by
    rw [hmap, List.pairwise_map]
    exact (h.chained.sorted.filter _).imp le_of_lt
  rw [hfilter, orderBySequence, (List.pairwise_map.1 hsorted).insertionSort_eq]
  exact hrows

theorem list_eq (h : TenantChain prim tenantId s events)
    (htenant : validateText (some tenantId) "TENANT_ID" = .ok tenantId) {cursor : Option String}
    {k : Int} (hk : decodeCursor cursor = .ok k) :
    list prim (tenantQuery tenantId) cursor s =
      .ok ⟨(rest k events).take maxPageLimit, (nextSequence k events).map encodeCursor⟩ := by
  have hrows := h.selected k
  generalize hselected : orderBySequence (s.rows.filter fun row =>
    k < row.sequence && MatchesRow (tenantQuery tenantId) row) = rows at hrows
  have hlength := hrows.length_eq
  have hquery : validateQuery (tenantQuery tenantId) = .ok () :=
    bind_eq_ok.2 ⟨tenantId, htenant, rfl⟩
  have htake : (rows.take 201).take 200 = rows.take 200 := by
    rw [List.take_take, Nat.min_eq_left (by decide)]
  have hread : ((rows.take 201).take 200).mapM (eventFromRow prim) =
      .ok ((rest k events).take 200) := by
    rw [htake]
    exact mapM_of_readsAs (List.forall₂_take 200 hrows)
  have hprobe : (200 : Int) < ((rows.take 201).length : Int) ↔ 200 < (rest k events).length := by
    rw [List.length_take, hlength]
    omega
  have hnext : (if (200 : Int) < ((rows.take 201).length : Int) then
        ((rest k events).take 200).getLast?.map (encodeCursor ·.sequence)
      else none) = (nextSequence k events).map encodeCursor := by
    rw [nextSequence, Pages.next, maxPageLimit]
    by_cases hlong : 200 < (rest k events).length
    · rw [if_pos (hprobe.2 hlong), if_pos hlong, Option.map_map]
      rfl
    · rw [if_neg (fun hprobed => hlong (hprobe.1 hprobed)), if_neg hlong]
      rfl
  refine bind_eq_ok.2 ⟨(), hquery, bind_eq_ok.2 ⟨k, hk, ?_⟩⟩
  rw [hselected]
  refine bind_eq_ok.2 ⟨_, hread, ?_⟩
  rw [← hnext]
  rfl

theorem decodeCursor_sequence (h : TenantChain prim tenantId s events) {event : AuditEvent}
    (hmem : event ∈ events) :
    decodeCursor (some (encodeCursor event.sequence)) = .ok event.sequence := by
  have hbounds := h.chained.sequence_le event hmem
  obtain ⟨n, hn⟩ := Int.eq_ofNat_of_zero_le (by omega : 0 ≤ event.sequence)
  rw [hn]
  refine decodeCursor_encodeCursor ?_
  have hbounded := h.bounded
  omega

theorem readPages_eq (h : TenantChain prim tenantId s events)
    (htenant : validateText (some tenantId) "TENANT_ID" = .ok tenantId) {fuel : Nat}
    {cursor : Option String} {k : Int} (hk : decodeCursor cursor = .ok k)
    (hfuel : (rest k events).length < fuel) :
    readPages prim tenantId s fuel cursor = .ok (some (rest k events)) := by
  induction fuel generalizing cursor k with
  | zero => exact absurd hfuel (Nat.not_lt_zero _)
  | succ fuel ih =>
    refine bind_eq_ok.2 ⟨_, h.list_eq htenant hk, ?_⟩
    cases hnext : nextSequence k events with
    | none =>
      have hshort := Pages.of_next_none (by decide) hnext
      rw [List.take_of_length_le hshort]
      rfl
    | some k' =>
      obtain ⟨-, event, hlast, rfl⟩ := Pages.of_next hnext
      have hmem : event ∈ events :=
        (List.mem_filter.1 (List.mem_of_mem_take (List.mem_of_getLast? hlast))).1
      have hless : (rest event.sequence events).length < (rest k events).length :=
        Pages.length_after_lt (by decide) h.chained.sorted hnext
      have hrest := ih (h.decodeCursor_sequence hmem) (by omega)
      have hparts := Pages.after_of_next h.chained.sorted (List.prefix_refl events) hnext
      refine bind_eq_ok.2 ⟨_, hrest, ?_⟩
      rw [Option.map_some, hparts]
      rfl

theorem verifyTenant_eq (h : TenantChain prim tenantId s events)
    (htenant : validateText (some tenantId) "TENANT_ID" = .ok tenantId) :
    verifyTenant prim tenantId s = .ok (some (validResult events)) := by
  have hall : rest 0 events = events := by
    refine List.filter_eq_self.2 fun event hmem => ?_
    have hbounds := h.chained.sequence_le event hmem
    have hpos : 0 < event.sequence := by omega
    simp only [hpos, decide_true, Bool.and_self]
  have hlength : events.length ≤ s.rows.length := by
    rw [← h.rows.length_eq]
    exact List.length_filter_le _ _
  have hfuel : (rest 0 events).length < s.rows.length + 1 := by
    rw [hall]
    omega
  have hpages : readPages prim tenantId s (s.rows.length + 1) none = .ok (some (rest 0 events)) :=
    h.readPages_eq htenant rfl hfuel
  rw [hall] at hpages
  refine bind_eq_ok.2 ⟨_, hpages, ?_⟩
  rw [Option.map_some, verifyIntegrity_chained h.chained]
  rfl

end TenantChain

/-! ## Runs -/

abbrev Step := Event Tables Attempt (Except AuditError AuditEvent)

def acceptedFor (tenantId : String) (steps : List Step) : List AuditEvent :=
  (steps.filterMap (·.output.toOption)).filter fun event => event.tenantId = tenantId

/-- Every draft of the tenant that was accepted has floats that are kept. -/
def KeepsAccepted (tenantId : String) (steps : List Step) : Prop :=
  ∀ step ∈ steps, ∀ event, step.output = .ok event → event.tenantId = tenantId →
    KeepsDraft step.input.draft

theorem tenantChain_next {s : Tables} {events : List AuditEvent} {attempt : Attempt}
    (h : TenantChain prim tenantId s events)
    (hfloats : ∀ event, (machine prim).answer s attempt = .ok event → event.tenantId = tenantId →
      KeepsDraft attempt.draft) :
    ∃ events', TenantChain prim tenantId ((machine prim).next s attempt) events' ∧
      events'.length = events.length + (acceptedFor tenantId [(machine prim).event s attempt]).length := by
  have hspec := append_spec prim attempt.draft attempt.failed s
  have hanswer : (machine prim).answer s attempt = (append prim attempt.draft attempt.failed s).1 := rfl
  have hnext : (machine prim).next s attempt = (append prim attempt.draft attempt.failed s).2 := rfl
  have hevent : (machine prim).event s attempt =
      ⟨s, attempt, (append prim attempt.draft attempt.failed s).1,
        (append prim attempt.draft attempt.failed s).2⟩ := rfl
  rw [hanswer] at hfloats
  rw [hnext, hevent]
  unfold Post at hspec
  rcases happend : append prim attempt.draft attempt.failed s with ⟨e | event, s'⟩ <;>
    simp only [happend] at hspec hfloats
  · subst hspec
    exact ⟨events, h, by simp [acceptedFor, Except.toOption]⟩
  · obtain ⟨row, hinserted, rfl⟩ := hspec
    by_cases htenant : event.tenantId = tenantId
    · obtain ⟨event', hchain⟩ := h.append hinserted htenant (hfloats event rfl htenant)
      exact ⟨events ++ [event'], hchain, by simp [acceptedFor, Except.toOption, htenant]⟩
    · have hother : row.tenantId ≠ tenantId := by
        rw [(toRow_columns hinserted.row).1]
        exact htenant
      exact ⟨events, h.append_other hother, by simp [acceptedFor, Except.toOption, htenant]⟩

theorem tenantChain_run (prim : Primitives) (tenantId : String) (attempts : List Attempt)
    (hfloats : KeepsAccepted tenantId ((machine prim).events attempts)) :
    ∃ events, TenantChain prim tenantId ((machine prim).run attempts) events ∧
      events.length = (acceptedFor tenantId ((machine prim).events attempts)).length := by
  revert hfloats
  refine (machine prim).history_induction
    (J := fun steps s => KeepsAccepted tenantId steps → ∃ events,
      TenantChain prim tenantId s events ∧ events.length = (acceptedFor tenantId steps).length)
    ?_ ?_ attempts
  · exact fun _ => ⟨[], ⟨.nil, .nil, Nat.zero_le _⟩, rfl⟩
  · intro steps s attempt ih hkeeps
    obtain ⟨events, hchain, hlength⟩ := ih fun step hstep =>
      hkeeps step (List.mem_append_left _ hstep)
    obtain ⟨events', hchain', hlength'⟩ := tenantChain_next hchain fun event hanswer =>
      hkeeps _ (List.mem_append_right _ (List.mem_singleton_self _)) event hanswer
    refine ⟨events', hchain', ?_⟩
    rw [hlength', hlength, acceptedFor, acceptedFor, acceptedFor, List.filterMap_append,
      List.filter_append, List.length_append]
    rfl

/-- After every run whose accepted drafts of a tenant keep their floats, `verify_integrity` accepts as
many events of the tenant as were accepted. -/
theorem verifyTenant_run (prim : Primitives) (tenantId : String) (attempts : List Attempt)
    (htenant : validateText (some tenantId) "TENANT_ID" = .ok tenantId)
    (hfloats : KeepsAccepted tenantId ((machine prim).events attempts)) :
    ∃ result, verifyTenant prim tenantId ((machine prim).run attempts) = .ok (some result) ∧
      result.valid = true ∧
      result.checkedCount = (acceptedFor tenantId ((machine prim).events attempts)).length := by
  obtain ⟨events, hchain, hlength⟩ := tenantChain_run prim tenantId attempts hfloats
  exact ⟨validResult events, hchain.verifyTenant_eq htenant, rfl, hlength⟩

namespace Sample

open Audit.Sample

def draft (x : Value) : AuditEventDraft := (fields (.mapping false [(some "x", x)])).draft

theorem eventPayload_event {x : Value} {json : Json Number} (h : toJson (thawJson x) = .ok json)
    (eventHash : String) : ∃ members, ("metadata", Json.obj [("x", json)]) ∈ members ∧
      (∀ member ∈ members, member.1 = "metadata" → member.2 = Json.obj [("x", json)]) ∧
      eventPayload (event (.mapping true [(some "x", x)]) eventHash) = .ok (.obj members) := by
  have hmetadata : toJson (thawJson (.mapping true [(some "x", x)])) = .ok (.obj [("x", json)]) :=
    bind_eq_ok.2 ⟨_, bind_eq_ok.2 ⟨json, h, rfl⟩, rfl⟩
  refine ⟨_, ?_, ?_, bind_eq_ok.2 ⟨.null, rfl, bind_eq_ok.2 ⟨.null, rfl, bind_eq_ok.2
    ⟨_, hmetadata, rfl⟩⟩⟩⟩
  · simp
  · simp

theorem sorted_of_text {x y : Value} {json json' : Json Number}
    (hx : toJson (thawJson x) = .ok json) (hy : toJson (thawJson y) = .ok json')
    (h : text x = text y) : json.sorted = json'.sorted := by
  obtain ⟨members, hmember, -, hpayload⟩ := eventPayload_event hx genesisHash
  obtain ⟨members', -, hmembers', hpayload'⟩ := eventPayload_event hy genesisHash
  rw [text, text, hpayload, hpayload'] at h
  have hsorted := Json.canonical_inj.1 (show (Json.obj members).canonical = _ from h)
  obtain ⟨value, hvalue, hobj⟩ := Json.mem_of_sorted_obj hsorted hmember
  have hmetadata : value = Json.obj [("x", json')] := hmembers' _ hvalue rfl
  rw [hmetadata] at hobj
  obtain ⟨value', hvalue', heq⟩ := Json.mem_of_sorted_obj hobj
    (show ("x", json) ∈ [("x", json)] from List.mem_singleton_self _)
  obtain rfl : value' = json' := congrArg Prod.snd (List.mem_singleton.1 hvalue')
  exact heq

theorem sha256_float : primitives.sha256 (text float) = floatHash := by
  have hlist : text float ≠ text (.list [small]) := by
    intro h
    cases sorted_of_text rfl rfl h
  simp only [primitives, if_neg hlist, if_true]

theorem toJson_int : toJson (thawJson (.int (10 ^ 16))) = .ok (.num (.int (10 ^ 16))) := by
  rw [thawJson, toJson, if_pos (by decide)]

theorem sha256_int : primitives.sha256 (text (.int (10 ^ 16))) = intHash := by
  have hlist : text (.int (10 ^ 16)) ≠ text (.list [small]) := by
    intro h
    cases sorted_of_text toJson_int rfl h
  have hfloat : text (.int (10 ^ 16)) ≠ text float := by
    intro h
    cases sorted_of_text toJson_int rfl h
  simp only [primitives, if_neg hlist, if_neg hfloat, if_true]

def appended : AuditEvent := event (.mapping false [(some "x", float)]) floatHash

def readBack : AuditEvent := event (.mapping false [(some "x", .int (10 ^ 16))]) floatHash

theorem validateMetadata_x {x : Value} {json : Json Number}
    (hx : freezeJson primitives 1 x = .ok x) (hjson : toJson (thawJson x) = .ok json)
    (hsize : (Json.obj [("x", json)]).canonical.utf8ByteSize ≤ maxJsonBytes) :
    validateMetadata primitives (.mapping true [(some "x", x)]) =
      .ok (.mapping false [(some "x", x)]) := by
  have hkey : checkKey primitives (some "x") = .ok () := ok_of_toOption (by decide)
  have hfrozen : freezeJson primitives 0 (.mapping true [(some "x", x)]) =
      .ok (.mapping false [(some "x", x)]) := by
    rw [freezeJson, if_neg (by decide)]
    exact bind_eq_ok.2 ⟨_, bind_eq_ok.2 ⟨(), hkey, bind_eq_ok.2 ⟨x, hx, rfl⟩⟩, rfl⟩
  refine validateMetadata_iff.2 ⟨bind_eq_ok.2 ⟨_, hfrozen, bind_eq_ok.2
    ⟨.obj [("x", json)], ?_, if_neg (not_lt.2 hsize)⟩⟩, by simp⟩
  exact bind_eq_ok.2 ⟨_, bind_eq_ok.2 ⟨json, hjson, rfl⟩, rfl⟩

theorem validateDraft_draft : validateDraft primitives (draft float) = .ok appended.toAuditFields := by
  refine validateDraft_iff.2 {
    actorType := rfl
    outcome := rfl
    workspaceId := rfl
    metadata := validateMetadata_x rfl rfl (by decide)
    eventId := ok_of_toOption (by decide)
    occurredAt := rfl
    actorId := ok_of_toOption (by decide)
    tenantId := ok_of_toOption (by decide)
    action := ok_of_toOption (by decide)
    targetType := ok_of_toOption (by decide)
    targetId := ok_of_toOption (by decide)
    traceId := ok_of_toOption (by decide)
    policyVersion := ok_of_toOption (by decide)
    before := rfl
    after := rfl }

theorem loadNumber_large :
    loadNumber (Number.float (Decimal.of false 1 16)).numeral.plain = .int (10 ^ 16) := by
  rw [loadNumber, if_pos (by decide)]
  exact congrArg Value.int (by decide)

theorem eventFromRow_appended :
    ∃ row, toRow appended = .ok row ∧ row.tenantId = "tenant-1" ∧ row.sequence = 1 ∧
      eventFromRow primitives row = .ok readBack := by
  have hcolumn : toJsonb appended.metadata =
      .ok (.obj [("x", .num (Number.float (Decimal.of false 1 16)).numeral.plain)]) := rfl
  have hmetadata : validateMetadata primitives
      (loads (.obj [("x", .num (Number.float (Decimal.of false 1 16)).numeral.plain)])) =
        .ok readBack.metadata := by
    have hloads : loads (.obj [("x", .num (Number.float (Decimal.of false 1 16)).numeral.plain)]) =
        .mapping true [(some "x", .int (10 ^ 16))] := by
      simp only [loads, loadMembers, loadNumber_large]
      rfl
    rw [hloads]
    exact validateMetadata_x rfl toJson_int (by decide)
  have hcontract : validateEventContract primitives readBack = .ok () :=
    ok_of_toOption (by decide)
  refine ⟨_, bind_eq_ok.2 ⟨none, rfl, bind_eq_ok.2 ⟨none, rfl, bind_eq_ok.2 ⟨_, hcolumn, rfl⟩⟩⟩,
    rfl, rfl, ?_⟩
  exact bind_eq_ok.2 ⟨_, hmetadata, bind_eq_ok.2 ⟨_, rfl, bind_eq_ok.2 ⟨_, rfl,
    bind_eq_ok.2 ⟨_, rfl, bind_eq_ok.2 ⟨_, rfl, bind_eq_ok.2 ⟨_, rfl,
      bind_eq_ok.2 ⟨(), hcontract, rfl⟩⟩⟩⟩⟩⟩⟩

theorem append_large {row : Row} (hrow : toRow appended = .ok row) :
    append primitives (draft float) false ⟨[]⟩ = (.ok appended, ⟨[row]⟩) := by
  have hhash : calculateEventHash primitives (event (.mapping false [(some "x", float)]) genesisHash) =
      .ok floatHash := by
    change Except.ok (primitives.sha256 (text float)) = _
    rw [sha256_float]
  refine (query_bind (g := fun _ => validateDraft primitives (draft float)) validateDraft_draft
    _).trans ?_
  refine (ensure_bind rfl _ _).trans ((get_bind _ _).trans ?_)
  refine (query_bind (g := fun _ => calculateEventHash primitives
    (event (.mapping false [(some "x", float)]) genesisHash)) hhash _).trans ?_
  refine (query_bind (g := fun _ => toRow appended) hrow _).trans ?_
  refine (ensure_bind ?_ _ _).trans ((ensure_bind List.not_mem_nil _ _).trans rfl)
  decide

end Sample

/-- A float that is kept. -/
theorem verifyTenant_small :
    ∃ result, verifyTenant Audit.Sample.primitives "tenant-1"
        ((machine Audit.Sample.primitives).run [⟨Sample.draft (.list [Audit.Sample.small]), false⟩]) =
          .ok (some result) ∧
      result.valid = true ∧
      result.checkedCount = (acceptedFor "tenant-1" ((machine Audit.Sample.primitives).events
        [⟨Sample.draft (.list [Audit.Sample.small]), false⟩])).length := by
  refine verifyTenant_run _ _ _ (ok_of_toOption (by decide)) fun step hstep event _ _ => ?_
  rw [List.mem_singleton.1 hstep]
  exact ⟨trivial, trivial, ⟨⟨(show Kept _ by decide), trivial⟩, trivial⟩⟩

/-- A float of `10 ** 16` is accepted, and the chain does not verify any more. -/
theorem large_float_not_valid :
    ¬∀ (prim : Primitives) (tenantId : String) (attempts : List Attempt),
      validateText (some tenantId) "TENANT_ID" = .ok tenantId →
        ∃ result, verifyTenant prim tenantId ((machine prim).run attempts) = .ok (some result) ∧
          result.valid = true := by
  intro h
  obtain ⟨row, hrow, htenant, hsequence, hread⟩ := Sample.eventFromRow_appended
  have happend := Sample.append_large hrow
  obtain ⟨result, hresult, hvalid⟩ := h Audit.Sample.primitives "tenant-1"
    [⟨Sample.draft Audit.Sample.float, false⟩] (ok_of_toOption (by decide))
  have hrun : (machine Audit.Sample.primitives).run [⟨Sample.draft Audit.Sample.float, false⟩] =
      ⟨[row]⟩ := congrArg Prod.snd happend
  have hpage : list Audit.Sample.primitives (tenantQuery "tenant-1") none ⟨[row]⟩ =
      .ok ⟨[Sample.readBack], none⟩ := by
    have hselected : (Tables.rows ⟨[row]⟩).filter (fun row =>
        0 < row.sequence && MatchesRow (tenantQuery "tenant-1") row) = [row] := by
      simp [MatchesRow, tenantQuery, htenant, hsequence]
    have hread' : [row].mapM (eventFromRow Audit.Sample.primitives) = .ok [Sample.readBack] := by
      rw [List.mapM_cons, hread]
      rfl
    refine bind_eq_ok.2 ⟨(), ok_of_toOption (by decide), bind_eq_ok.2 ⟨0, rfl, ?_⟩⟩
    rw [hselected]
    exact bind_eq_ok.2 ⟨_, hread', rfl⟩
  have hverify : verifyTenant Audit.Sample.primitives "tenant-1" ⟨[row]⟩ =
      .ok (some (verifyIntegrity Audit.Sample.primitives [Sample.readBack])) :=
    bind_eq_ok.2 ⟨some [Sample.readBack], bind_eq_ok.2 ⟨_, hpage, rfl⟩, rfl⟩
  rw [hrun, hverify] at hresult
  obtain rfl := Option.some.inj (Except.ok.inj hresult)
  have hlinked := (chained_concat.1 (show Chained _ ([] ++ [Sample.readBack]) from
    verifyIntegrity_iff.1 hvalid)).2.2
  have hhash : calculateEventHash Audit.Sample.primitives Sample.readBack =
      .ok Audit.Sample.intHash := congrArg Except.ok Sample.sha256_int
  have hne : Audit.Sample.intHash ≠ Audit.Sample.floatHash := by decide
  exact hne (Except.ok.inj (hhash.symm.trans hlinked.eventHash))

end DaonUser.Audit.Postgres
