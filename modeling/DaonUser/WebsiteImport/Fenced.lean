import DaonUser.Lib.Turns
import DaonUser.Lib.UniqueRows
import DaonUser.WebsiteImport.Model

/-!
# One import of a key, and its attempts

Whatever transactions run beside each other on a key: at most one snapshot, source and binding is made for
it, a completed request stays as it is, another URL is refused, and an attempt that has failed or was
replaced by a newer one does nothing to the request any more (`imports_fenced`). That the ids of the
attempts differ comes from the draws of `uuid4`.
-/

namespace DaonUser.WebsiteImport

open Lib Program

variable {Q : Unit → Hold KeyState → Prop} {states : List ImportState} {r : ImportRequest} {b b' : KeyState}
  {c : ClaimCall} {url : String}

variable {P : Type} [DecidableEq P] {w : WebPrimitives} {scope : ImportScope} {others : Surroundings}

/-! ## What the calls do to a key -/

/-- The request of the key, and the snapshots, the ids of the sources and the bindings that it has made. -/
structure KeyState where
  request : Option ImportRequest
  snapshots : List SnapshotRow
  sources : List String
  bindings : List BindingRow

def keyState (rows : ImportRows) : KeyState :=
  ⟨rows.request, rows.snapshots, rows.sources.map (·.recordId), rows.bindings⟩

/-- A claim makes the request, takes over one that has failed, or finds it completed. -/
inductive Claimed (w : WebPrimitives) (scope : ImportScope) (c : ClaimCall) (url : String) :
    WebsiteImportClaim → KeyState → KeyState → Prop where
  | new (policy : String) (b : KeyState) (hnone : b.request = none) :
      Claimed w scope c url ⟨requestIdOf c.uuid, fingerprint w scope url, false, none⟩ b
        { b with request := some (newRequest w c url policy
          ⟨requestIdOf c.uuid, fingerprint w scope url, false, none⟩) }
  | again (policy : String) (b : KeyState) (r : ImportRequest) (hrequest : b.request = some r)
      (hurl : r.fingerprint = fingerprint w scope url) (hstate : r.state = .failed) :
      Claimed w scope c url ⟨requestIdOf c.uuid, fingerprint w scope url, false, none⟩ b
        { b with request := some (retried w c policy
          ⟨requestIdOf c.uuid, fingerprint w scope url, false, none⟩ r) }
  | replayed (b : KeyState) (r : ImportRequest) (s : SnapshotRow) (hrequest : b.request = some r)
      (hurl : r.fingerprint = fingerprint w scope url) (hstate : r.state = .completed)
      (hsnapshot : s ∈ b.snapshots) (hid : r.snapshotId = some s.snapshotId) :
      Claimed w scope c url (replayedClaim r (fingerprint w scope url) s) b b

def KeyState.IsOf (b : KeyState) (claim : WebsiteImportClaim) (states : List ImportState)
    (r : ImportRequest) : Prop :=
  b.request = some r ∧ r.requestId = claim.requestId ∧ r.fingerprint = claim.fingerprint ∧
    r.state ∈ states

def KeyState.completed (b : KeyState) (c : CompleteCall) (policy : String) (r : ImportRequest) :
    KeyState where
  request := some { r with state := .completed, snapshotId := some c.snapshotId }
  snapshots := b.snapshots ++ [c.snapshot policy]
  sources := b.sources ++ [c.sourceId]
  bindings := if b.bindings.any fun row => row.recordId = c.sourceId then b.bindings
    else b.bindings ++ [⟨c.sourceId, c.sourceVersionId⟩]

def KeyState.stored (b : KeyState) (r : ImportRequest) : KeyState :=
  { b with request := some { r with state := .storing } }

def KeyState.failed (b : KeyState) (code : String) (r : ImportRequest) : KeyState :=
  { b with request := some { r with state := .failed, safeErrorCode := some code } }

inductive Turn (w : WebPrimitives) (scope : ImportScope) :
    ImportCall → ImportAnswer → Hold KeyState → Prop where
  | claimed (c : ClaimCall) (url : String) (claim : WebsiteImportClaim) (b b' : KeyState)
      (hurl : w.normalize c.url = some url) (h : Claimed w scope c url claim b b') :
      Turn w scope (.claim c) (.claimed claim) (.held b b')
  | stored (claim : WebsiteImportClaim) (b : KeyState) (r : ImportRequest)
      (h : b.IsOf claim [.fetching] r) : Turn w scope (.markStoring claim) .done (.held b (b.stored r))
  | completed (c : CompleteCall) (policy : String) (b : KeyState) (r : ImportRequest)
      (h : b.IsOf c.claim [.fetching, .storing] r) :
      Turn w scope (.complete c) (.completed c.result) (.held b (b.completed c policy r))
  | missed (claim : WebsiteImportClaim) (code : String) : Turn w scope (.fail claim code) .done .free
  | failed (claim : WebsiteImportClaim) (code : String) (b : KeyState) (r : ImportRequest)
      (h : b.IsOf claim [.fetching, .storing] r) :
      Turn w scope (.fail claim code) .done (.held b (b.failed code r))
  | changed (write : Surroundings → Surroundings) : Turn w scope (.change write) .done .free

section Meets

variable {pre : KeyState → Prop} {before now : KeyState}

theorem notebook_meets (hq : Q () .free) :
    notebook_.Meets .request keyState pre Q .free := by
  unfold notebook_
  simp only [meets_bind, meets_read_free, meets_ensure]
  exact fun _ _ => hq

theorem isOf_iff {claim : WebsiteImportClaim} :
    r.isOf claim states = true ↔ r.requestId = claim.requestId ∧ r.fingerprint = claim.fingerprint ∧
      r.state ∈ states := by
  simp [ImportRequest.isOf, and_assoc]

theorem updateAttempt_meets {claim : WebsiteImportClaim}
    {set : ImportRequest → ImportRequest} {Q : Bool → Hold KeyState → Prop} (hmiss : Q false .free)
    (hhit : ∀ b r, b.IsOf claim states r → Q true (.held b { b with request := some (set r) })) :
    (updateAttempt claim states set).Meets .request keyState (fun _ => True) Q .free := by
  intro v
  cases hfound : v.hit claim states with
  | false =>
    simp only [hfound, Bool.false_eq_true, if_false]
    exact ⟨fun _ => ⟨fun _ => trivial, hmiss⟩, fun hmem => absurd hmem List.not_mem_nil⟩
  | true =>
    simp only [hfound, if_true]
    refine ⟨fun hfree => absurd (List.mem_singleton_self _) hfree, fun _ _ => ?_⟩
    obtain ⟨r, hr, his⟩ := (Option.any_eq_true _ _).1 hfound
    refine ⟨{ keyState v with request := some (set r) }, fun s hs => ?_,
      hhit _ r ⟨hr, isOf_iff.1 his⟩⟩
    have hsr : s.request = some r := (congrArg KeyState.request hs).trans hr
    change ({ keyState s with request := s.request.map set } : KeyState) = _
    rw [hs, hsr]
    rfl

variable (w scope) in
theorem markStoring_meets (claim : WebsiteImportClaim) :
    (markStoring claim).Meets .request keyState (fun _ => True)
      (fun _ hold => Turn w scope (.markStoring claim) .done hold) .free := by
  unfold markStoring
  rw [meets_bind]
  refine updateAttempt_meets ?_ fun b r hof => ?_
  · simp
  · rw [meets_ensure]
    exact fun _ => .stored claim b r hof

variable (w scope) in
theorem fail_meets (claim : WebsiteImportClaim) (code : String) :
    (fail claim code).Meets .request keyState (fun _ => True)
      (fun _ hold => Turn w scope (.fail claim code) .done hold) .free := by
  unfold fail
  rw [meets_bind, meets_ensure]
  intro _
  rw [meets_bind]
  refine updateAttempt_meets ?_ fun b r hof => ?_
  · rw [meets_pure]
    exact .missed claim code
  · rw [meets_pure]
    exact .failed claim code b r hof

theorem claim_meets (c : ClaimCall) :
    (claim w scope c).Meets .request keyState (fun _ => True)
      (fun result hold => Turn w scope (.claim c) (.claimed result) hold) .free := by
  unfold claim policyFingerprint_
  simp only [meets_bind, meets_require]
  intro url hurl policy _
  refine notebook_meets ?_
  rw [meets_ensure]
  intro _
  rw [meets_readLocked_free]
  intro _
  refine ⟨fun _ => ?_, fun hmem => absurd hmem (by simp)⟩
  unfold lockKey
  rw [meets_readLocked_free]
  intro v
  cases hv : v.request with
  | none =>
    refine ⟨fun _ => ?_, fun hmem => absurd hmem (by simp)⟩
    rw [meets_bind]
    refine meets_insert_free (fun _ => List.mem_singleton_self _) fun v' hadmits => ?_
    refine ⟨{ keyState v' with request := some (newRequest w c url policy
      ⟨requestIdOf c.uuid, fingerprint w scope url, false, none⟩) }, fun s hs => ?_, ?_⟩
    · change ({ keyState s with request := _ } : KeyState) = _
      rw [hs]
    · rw [meets_pure]
      exact .claimed c url _ _ _ hurl (.new policy _ hadmits)
  | some r =>
    refine ⟨fun hfree => absurd (by simp) hfree, fun _ _ => ?_⟩
    rw [meets_bind, meets_ensure]
    intro hfingerprint
    rw [meets_ite]
    refine ⟨fun hstate => ?_, fun _ => ?_⟩
    · rw [meets_bind, meets_read_held]
      intro v' hv'
      rw [meets_bind, meets_require]
      intro s hs
      rw [meets_pure]
      have hmem : s ∈ (keyState v).snapshots := by
        rw [← hv']
        exact List.mem_of_find?_eq_some hs
      have hid := List.find?_some hs
      simp only [Bool.and_eq_true, decide_eq_true_eq] at hid
      exact .claimed c url _ _ _ hurl (.replayed _ r s hv hfingerprint hstate hmem hid.1.symm)
    · simp only [meets_bind, meets_ensure]
      intro hfailed _
      refine meets_write_held (b := { keyState v with request := some (retried w c policy
        ⟨requestIdOf c.uuid, fingerprint w scope url, false, none⟩ r) }) (fun s hs => ?_) ?_
      · change ({ keyState s with request := _ } : KeyState) = _
        rw [hs]
      · rw [meets_pure]
        exact .claimed c url _ _ _ hurl (.again policy _ r hv hfingerprint hfailed)

theorem transitionSource_meets {sourceId target : String} {version : Nat} (hq : Q () (.held before now)) :
    (transitionSource sourceId target version).Meets .request keyState pre Q (.held before now) := by
  unfold transitionSource
  simp only [meets_bind, meets_read_held, meets_ensure]
  intro v _ _
  refine meets_write_held (fun s hs => ?_) hq
  rw [← hs]
  have hids : (s.sources.map fun row => if row.recordId = sourceId then
      ({ row with state := target, version := row.version + 1 } : SourceRow) else row).map
        (·.recordId) = s.sources.map (·.recordId) := by
    rw [List.map_map]
    refine List.map_congr_left fun row _ => ?_
    simp only [Function.comp_apply]
    split <;> rfl
  simp only [keyState, hids]

theorem checkObject_meets {objectId digest : String} {body : List UInt8} (hq : Q () (.held before now)) :
    (checkObject scope objectId digest body).Meets .request keyState pre Q (.held before now) := by
  unfold checkObject
  simp only [meets_bind, meets_read_held, meets_ensure]
  exact fun _ _ _ => hq

theorem insert_meets_same {admits : ImportRows → Prop} [DecidablePred admits]
    {g : ImportRows → ImportRows} {e : ImportError}
    (hg : ∀ s, keyState (g s) = keyState s) (hq : Q () (.held before now)) :
    (Program.insert (fun _ => []) admits g e : Op Unit).Meets .request keyState pre Q (.held before now) :=
  meets_insert_held (fun s hs => (hg s).trans hs) hq

theorem complete_meets (c : CompleteCall) :
    (complete w scope c).Meets .request keyState (fun _ => True)
      (fun result hold => Turn w scope (.complete c) (.completed result) hold) .free := by
  unfold complete policyFingerprint_
  rw [meets_bind]
  cases validatePage w c.page c.page.requestedUrl with
  | error e => trivial
  | ok a =>
    rw [show (finish (.ok a) : Op Unit) = pure a from rfl, meets_pure, meets_bind, meets_ensure]
    intro _
    rw [meets_bind, meets_require]
    intro policy _
    rw [meets_bind]
    refine notebook_meets ?_
    unfold lockAttempt
    rw [meets_bind, meets_readLocked_free]
    intro v
    refine ⟨fun hfree => ?_, fun _ _ => ?_⟩
    · -- no row is found, and none is locked
      rw [meets_bind, meets_require]
      intro r hr
      obtain ⟨hrequest, hid⟩ := Option.filter_eq_some_iff.1 hr
      exact absurd (by simp [hrequest, hid]) hfree
    · rw [meets_bind, meets_require]
      intro r hr
      obtain ⟨hrequest, hid⟩ := Option.filter_eq_some_iff.1 hr
      simp only [decide_eq_true_eq] at hid
      rw [meets_bind, meets_ensure]
      rintro ⟨hfingerprint, hstate⟩
      rw [meets_bind, meets_ensure]
      intro _
      rw [meets_bind]
      refine checkObject_meets ?_
      rw [meets_bind]
      refine checkObject_meets ?_
      rw [meets_bind]
      refine meets_insert_held
        (b := { keyState v with sources := (keyState v).sources ++ [c.sourceId] }) (fun s hs => ?_) ?_
      · rw [← hs]
        simp [keyState]
      rw [meets_bind]
      refine insert_meets_same (fun _ => rfl) ?_
      rw [meets_bind]
      refine meets_write_held (b := { keyState v with
        sources := (keyState v).sources ++ [c.sourceId]
        bindings := if (keyState v).bindings.any fun row => row.recordId = c.sourceId then
          (keyState v).bindings else (keyState v).bindings ++ [⟨c.sourceId, c.sourceVersionId⟩] })
        (fun s hs => ?_) ?_
      · have hbindings : s.bindings = v.bindings := congrArg KeyState.bindings hs
        have hrest : ∀ bindings, ({ keyState s with bindings } : KeyState) =
            { keyState v with sources := (keyState v).sources ++ [c.sourceId], bindings } := by
          intro bindings
          rw [hs]
        rw [← hrest]
        split
        · next hany => simp only [keyState, ← hbindings, if_pos hany]
        · next hany => simp only [keyState, ← hbindings, if_neg hany]
      rw [meets_bind, meets_require]
      intro text _
      rw [meets_bind, meets_ensure]
      intro _
      rw [meets_bind]
      refine insert_meets_same (fun _ => rfl) ?_
      rw [meets_bind]
      refine insert_meets_same (fun _ => rfl) ?_
      rw [meets_bind]
      refine transitionSource_meets ?_
      rw [meets_bind]
      refine transitionSource_meets ?_
      rw [meets_bind]
      refine transitionSource_meets ?_
      rw [meets_bind]
      refine transitionSource_meets ?_
      rw [meets_bind, meets_read_held]
      intro _ _
      rw [meets_bind, meets_ensure]
      intro _
      rw [meets_bind]
      refine meets_insert_held (b := { (keyState v).completed c policy r with
        request := some r }) (fun s hs => ?_) ?_
      · have hsnapshots : ∀ snapshots, ({ keyState s with snapshots } : KeyState) = _ :=
          fun snapshots => by rw [hs]
        refine (hsnapshots _).trans ?_
        have hold : s.snapshots = v.snapshots := congrArg KeyState.snapshots hs
        simp only [KeyState.completed, hold]
        simp [keyState, hrequest]
      rw [meets_bind, meets_require]
      intro again _
      rw [meets_bind, meets_ensure]
      intro _
      rw [meets_bind]
      refine meets_write_held (b := (keyState v).completed c policy r) (fun s hs => ?_) ?_
      · have hsr : s.request = some r := congrArg KeyState.request hs
        change ({ keyState s with request := s.request.map _ } : KeyState) = _
        rw [hs, hsr]
        rfl
      · rw [meets_pure]
        exact .completed c policy _ r ⟨hrequest, hid, hfingerprint, hstate⟩

theorem program_meets (call : ImportCall) :
    (call.program w scope).Meets .request keyState (fun _ => True) (Turn w scope call) .free := by
  cases call with
  | claim c =>
    refine meets_bind.2 ((claim_meets c).mono fun result hold h => ?_)
    exact meets_pure.2 h
  | markStoring attempt =>
    refine meets_bind.2 ((markStoring_meets w scope attempt).mono fun _ hold h => ?_)
    exact meets_pure.2 h
  | complete c =>
    refine meets_bind.2 ((complete_meets c).mono fun result hold h => ?_)
    exact meets_pure.2 h
  | fail attempt code =>
    refine meets_bind.2 ((fail_meets w scope attempt code).mono fun _ hold h => ?_)
    exact meets_pure.2 h
  | change write =>
    refine meets_bind.2 ?_
    refine (ignores_write (fun _ => List.not_mem_nil) fun _ => ?_).meets fun _ => meets_pure.2 (.changed write)
    rfl

end Meets

abbrev Importers (P : Type) := Cluster P ImportCall ImportRows ImportLock ImportError ImportAnswer

abbrev ImportEvent (P : Type) :=
  Event (Importers P) (Move P ImportCall ImportError) (Option (Ended ImportCall ImportError ImportAnswer))

inductive Steps (w : WebPrimitives) (scope : ImportScope) :
    KeyState → KeyState → Option (Ended ImportCall ImportError ImportAnswer) → Prop where
  | same (b : KeyState) (answer : Option (Ended ImportCall ImportError ImportAnswer))
      (h : ∀ call a, answer = some ⟨call, .ok a⟩ → Turn w scope call a .free) : Steps w scope b b answer
  | turn (b b' : KeyState) (call : ImportCall) (a : ImportAnswer)
      (h : Turn w scope call a (.held b b')) : Steps w scope b b' (some ⟨call, .ok a⟩)

theorem steps_next {x : Importers P} (hx : (importDatabase w scope others).Reachable x)
    (move : Move P ImportCall ImportError) :
    Steps w scope (keyState x.committed)
      (keyState ((importDatabase w scope others).next x move).committed)
      ((importDatabase w scope others).answer x move) := by
  have hmade : Made keyState (Turn w scope) x ((importDatabase w scope others).next x move)
      ((importDatabase w scope others).answer x move) := made_next program_meets hx move
  generalize (importDatabase w scope others).answer x move = answer at hmade ⊢
  rcases answer with _ | ⟨call, e | a⟩
  · rw [show keyState _ = keyState x.committed from hmade]
    exact .same _ _ (by simp)
  · rw [show keyState _ = keyState x.committed from hmade]
    exact .same _ _ (by simp)
  · rcases hmade with ⟨hturn, hsame⟩ | hturn
    · rw [hsame]
      refine .same _ _ ?_
      rintro call' a' ⟨⟩
      exact hturn
    · exact .turn _ _ call a hturn

/-! ## One import -/

/-- There is nothing before the import is completed and one of each after it, and the fingerprint is that of
the URL. -/
structure Sane (w : WebPrimitives) (scope : ImportScope) (b : KeyState) : Prop where
  empty : (∀ r, b.request = some r → r.state ≠ .completed) →
    b.snapshots = [] ∧ b.sources = [] ∧ b.bindings = []
  one : ∀ r, b.request = some r → r.state = .completed → ∃ s, b.snapshots = [s] ∧
    r.snapshotId = some s.snapshotId ∧ b.sources = [s.sourceId] ∧
    b.bindings = [⟨s.sourceId, s.sourceVersionId⟩]
  url : ∀ r, b.request = some r → r.fingerprint = fingerprint w scope r.requestedUrl

theorem KeyState.IsOf.not_completed {claim : WebsiteImportClaim} (h : b.IsOf claim states r)
    (hstates : ImportState.completed ∉ states) :
    ∀ r', b.request = some r' → r'.state ≠ .completed := by
  intro r' hr' hstate
  obtain rfl := Option.some.inj (h.1.symm.trans hr')
  exact hstates (hstate ▸ h.2.2.2)

theorem Sane.claimed {claim : WebsiteImportClaim}
    (h : Sane w scope b) (hclaimed : Claimed w scope c url claim b b') : Sane w scope b' := by
  cases hclaimed with
  | new policy _ hnone =>
    refine ⟨fun _ => h.empty (by simp [hnone]), ?_, ?_⟩
    · rintro r ⟨⟩ hstate
      cases hstate
    · rintro r ⟨⟩
      rfl
  | again policy _ r hrequest hfingerprint hfailed =>
    refine ⟨fun _ => h.empty ?_, ?_, ?_⟩
    · intro r' hr' hstate
      obtain rfl := Option.some.inj (hrequest.symm.trans hr')
      rw [hfailed] at hstate
      cases hstate
    · rintro r' ⟨⟩ hstate
      cases hstate
    · rintro r' ⟨⟩
      exact h.url r hrequest
  | replayed => exact h

theorem Sane.next {answer : Option (Ended ImportCall ImportError ImportAnswer)}
    (h : Sane w scope b) (hstep : Steps w scope b b' answer) : Sane w scope b' := by
  cases hstep with
  | same => exact h
  | turn _ call a hturn =>
    cases hturn with
    | claimed c url claim _ _ hurl hclaimed => exact h.claimed hclaimed
    | stored claim _ r hof =>
      refine ⟨fun _ => h.empty (hof.not_completed (by decide)), ?_, ?_⟩
      · rintro r' ⟨⟩ hstate
        cases hstate
      · rintro r' ⟨⟩
        exact h.url r hof.1
    | completed c policy _ r hof =>
      obtain ⟨hsnapshots, hsources, hbindings⟩ := h.empty (hof.not_completed (by decide))
      refine ⟨fun hnot => absurd rfl (hnot _ rfl), ?_, ?_⟩
      · rintro r' ⟨⟩ -
        exact ⟨c.snapshot policy, by simp [KeyState.completed, hsnapshots], rfl,
          by simp [KeyState.completed, hsources, CompleteCall.snapshot],
          by simp [KeyState.completed, hbindings, CompleteCall.snapshot]⟩
      · rintro r' ⟨⟩
        exact h.url r hof.1
    | failed claim code _ r hof =>
      refine ⟨fun _ => h.empty (hof.not_completed (by decide)), ?_, ?_⟩
      · rintro r' ⟨⟩ hstate
        cases hstate
      · rintro r' ⟨⟩
        exact h.url r hof.1

theorem sane_of_reachable {x : Importers P} (hx : (importDatabase w scope others).Reachable x) :
    Sane w scope (keyState x.committed) := by
  obtain ⟨moves, rfl⟩ := hx
  induction moves using List.reverseRecOn with
  | nil => exact ⟨fun _ => ⟨rfl, rfl, rfl⟩, by rintro r ⟨⟩, by rintro r ⟨⟩⟩
  | append_singleton moves move ih =>
    rw [Machine.run_concat]
    exact ih.next (steps_next ⟨moves, rfl⟩ move)

theorem Steps.completed
    {answer : Option (Ended ImportCall ImportError ImportAnswer)} (hstep : Steps w scope b b' answer)
    (hrequest : b.request = some r) (hstate : r.state = .completed) :
    b' = b ∧ ∀ c a, answer = some ⟨.claim c, .ok a⟩ → ∃ url s, w.normalize c.url = some url ∧
      r.fingerprint = fingerprint w scope url ∧ s ∈ b.snapshots ∧
      a = .claimed (replayedClaim r (fingerprint w scope url) s) := by
  have hnot : ∀ {claim : WebsiteImportClaim} {states : List ImportState} {r' : ImportRequest},
      ImportState.completed ∉ states → ¬b.IsOf claim states r' :=
    fun hstates hof => hof.not_completed hstates r hrequest hstate
  cases hstep with
  | same _ h =>
    refine ⟨rfl, fun c a hanswer => ?_⟩
    cases h _ _ hanswer
  | turn _ call a hturn =>
    cases hturn with
    | claimed c url claim _ _ hurl hclaimed =>
      cases hclaimed with
      | new policy _ hnone =>
        rw [hrequest] at hnone
        cases hnone
      | again policy _ r' hrequest' _ hfailed =>
        obtain rfl := Option.some.inj (hrequest.symm.trans hrequest')
        rw [hstate] at hfailed
        cases hfailed
      | replayed _ r' s hrequest' hfingerprint _ hmem hid =>
        obtain rfl := Option.some.inj (hrequest.symm.trans hrequest')
        refine ⟨rfl, ?_⟩
        rintro c' a' ⟨⟩
        exact ⟨url, s, hurl, hfingerprint, hmem, rfl⟩
    | stored claim _ r' hof => exact absurd hof (hnot (by decide))
    | completed c policy _ r' hof => exact absurd hof (hnot (by decide))
    | failed claim code _ r' hof => exact absurd hof (hnot (by decide))

theorem fingerprint_inj (hsha : Function.Injective w.sha256) {url' : String}
    (h : fingerprint w scope url = fingerprint w scope url') : url = url' := by
  have hchars := utf8_injective (hsha h)
  have hsorted := Json.canonical_inj.1 (String.toList_injective hchars)
  have hmem : ("url", Json.str url) ∈ ([("scope", .arr [.str scope.tenantId, .str scope.workspaceId,
      .str scope.actorId, .str scope.notebookId]), ("url", .str url),
      ("key", .str scope.idempotencyKey)] : List (String × Json Int)) := by simp
  obtain ⟨value, hvalue, heq⟩ := Json.mem_of_sorted_obj hsorted hmem
  obtain rfl : value = .str url' := by simpa using hvalue
  simpa [Json.sorted] using heq

def KeyState.UrlIs (b : KeyState) (url : String) : Prop :=
  ∃ r, b.request = some r ∧ r.requestedUrl = url

theorem Steps.urlIs
    {answer : Option (Ended ImportCall ImportError ImportAnswer)} (hstep : Steps w scope b b' answer)
    (h : b.UrlIs url) : b'.UrlIs url := by
  obtain ⟨r, hrequest, hurl⟩ := h
  have hsame : ∀ {claim : WebsiteImportClaim} {states : List ImportState} {r' : ImportRequest},
      b.IsOf claim states r' → r'.requestedUrl = url := by
    intro claim states r' hof
    rw [← hurl, Option.some.inj (hrequest.symm.trans hof.1)]
  cases hstep with
  | same => exact ⟨r, hrequest, hurl⟩
  | turn _ call a hturn =>
    cases hturn with
    | claimed c url' claim _ _ hurl' hclaimed =>
      cases hclaimed with
      | new policy _ hnone =>
        rw [hrequest] at hnone
        cases hnone
      | again policy _ r' hrequest' _ _ =>
        obtain rfl := Option.some.inj (hrequest.symm.trans hrequest')
        exact ⟨_, rfl, hurl⟩
      | replayed => exact ⟨r, hrequest, hurl⟩
    | stored claim _ r' hof => exact ⟨_, rfl, (hsame hof : r'.requestedUrl = url)⟩
    | completed c policy _ r' hof => exact ⟨_, rfl, (hsame hof : r'.requestedUrl = url)⟩
    | failed claim code _ r' hof => exact ⟨_, rfl, (hsame hof : r'.requestedUrl = url)⟩

theorem Steps.claim_url
    {answer : Option (Ended ImportCall ImportError ImportAnswer)} (hsha : Function.Injective w.sha256)
    (hsane : Sane w scope b) (hstep : Steps w scope b b' answer) (h : b.UrlIs url)
    {a : ImportAnswer} (hanswer : answer = some ⟨.claim c, .ok a⟩) : w.normalize c.url = some url := by
  obtain ⟨r, hrequest, rfl⟩ := h
  cases hstep with
  | same _ h => cases h _ _ hanswer
  | turn _ call a hturn =>
    cases hanswer
    cases hturn with
    | claimed _ url' claim _ _ hurl hclaimed =>
      cases hclaimed with
      | new policy _ hnone =>
        rw [hrequest] at hnone
        cases hnone
      | again policy _ r' hrequest' hfingerprint _ =>
        obtain rfl := Option.some.inj (hrequest.symm.trans hrequest')
        rw [hurl, fingerprint_inj hsha (hfingerprint.symm.trans (hsane.url r hrequest))]
      | replayed _ r' s hrequest' hfingerprint _ _ _ =>
        obtain rfl := Option.some.inj (hrequest.symm.trans hrequest')
        rw [hurl, fingerprint_inj hsha (hfingerprint.symm.trans (hsane.url r hrequest))]

/-! ## Attempts -/

/-- What `uuid4` draws for a call. -/
def ImportCall.uuid? : ImportCall → Option String
  | .claim c => some c.uuid
  | _ => none

def KeyState.attempts (b : KeyState) : List String :=
  match b.request with
  | none => []
  | some r => r.history.map (·.requestId) ++ [r.requestId]

theorem Steps.attempts
    {answer : Option (Ended ImportCall ImportError ImportAnswer)} (hstep : Steps w scope b b' answer) :
    b'.attempts = b.attempts ∨ ∃ c a, answer = some ⟨.claim c, .ok a⟩ ∧
      b'.attempts = b.attempts ++ [requestIdOf c.uuid] := by
  have hsame : ∀ {claim : WebsiteImportClaim} {states : List ImportState} {r r' : ImportRequest},
      b.IsOf claim states r → b'.request = some r' → r'.requestId = r.requestId →
      r'.history = r.history → b'.attempts = b.attempts := by
    intro claim states r r' hof hrequest hid hhistory
    simp only [KeyState.attempts, hof.1, hrequest, hid, hhistory]
  cases hstep with
  | same => exact Or.inl rfl
  | turn _ call a hturn =>
    cases hturn with
    | claimed c url claim _ _ hurl hclaimed =>
      cases hclaimed with
      | new policy _ hnone => exact Or.inr ⟨c, _, rfl, by simp [KeyState.attempts, hnone, newRequest]⟩
      | again policy _ r hrequest _ _ =>
        exact Or.inr ⟨c, _, rfl, by simp [KeyState.attempts, hrequest, retried]⟩
      | replayed => exact Or.inl rfl
    | stored claim _ r hof => exact Or.inl (hsame hof rfl rfl rfl)
    | completed c policy _ r hof => exact Or.inl (hsame hof rfl rfl rfl)
    | failed claim code _ r hof => exact Or.inl (hsame hof rfl rfl rfl)

theorem requestIdOf_injective : Function.Injective requestIdOf := by
  intro u v h
  have hchars : "website-request-".toList ++ u.toList = "website-request-".toList ++ v.toList := by
    simpa [requestIdOf] using congrArg String.toList h
  exact String.toList_injective (List.append_cancel_left hchars)

theorem attempts_drawn {moves : List (Move P ImportCall ImportError)} :
    ∀ id ∈ (keyState ((importDatabase w scope others).run moves).committed).attempts,
      ∃ uuid ∈ endedDraws ImportCall.uuid? ((importDatabase w scope others).events moves),
        id = requestIdOf uuid := by
  induction moves using List.reverseRecOn with
  | nil => intro id hid; cases hid
  | append_singleton moves move ih =>
    intro id hid
    rw [Machine.run_concat] at hid
    have hmore : ∀ uuid ∈ endedDraws ImportCall.uuid? ((importDatabase w scope others).events moves),
        uuid ∈ endedDraws ImportCall.uuid?
          ((importDatabase w scope others).events (moves ++ [move])) := by
      intro uuid huuid
      rw [Machine.events_concat, endedDraws, List.filterMap_append]
      exact List.mem_append_left _ huuid
    rcases (steps_next (w := w) ⟨moves, rfl⟩ move).attempts with hsame | ⟨c, a, hanswer, hnew⟩
    · rw [hsame] at hid
      obtain ⟨uuid, huuid, rfl⟩ := ih id hid
      exact ⟨uuid, hmore uuid huuid, rfl⟩
    · rw [hnew] at hid
      rcases List.mem_append.1 hid with hid | hid
      · obtain ⟨uuid, huuid, rfl⟩ := ih id hid
        exact ⟨uuid, hmore uuid huuid, rfl⟩
      · refine ⟨c.uuid, ?_, List.mem_singleton.1 hid⟩
        rw [Machine.events_concat, endedDraws, List.filterMap_append]
        refine List.mem_append_right _ (List.mem_filterMap.2 ⟨_, List.mem_singleton_self _, ?_⟩)
        change ((importDatabase w scope others).answer _ move).bind _ = _
        rw [hanswer]
        rfl

theorem claim_fresh {moves : List (Move P ImportCall ImportError)}
    (hdraws : (moves.filterMap (Move.draw? ImportCall.uuid?)).Nodup)
    {move : Move P ImportCall ImportError} {outcome : Except ImportError ImportAnswer}
    (hanswer : (importDatabase w scope others).answer ((importDatabase w scope others).run moves) move =
      some ⟨.claim c, outcome⟩) :
    requestIdOf c.uuid ∉
      (keyState ((importDatabase w scope others).run moves).committed).attempts := by
  intro hmem
  obtain ⟨uuid, huuid, hid⟩ := attempts_drawn _ hmem
  obtain rfl := requestIdOf_injective hid
  exact draw_not_mem_ended hdraws hanswer rfl huuid

/-- The attempt was made, and it has failed or a newer one has taken its place. -/
def KeyState.Gone (b : KeyState) (attempt : String) : Prop :=
  attempt ∈ b.attempts ∧ ∃ r, b.request = some r ∧ (r.requestId ≠ attempt ∨ r.state = .failed)

theorem KeyState.Gone.not_isOf {claim : WebsiteImportClaim}
    (h : b.Gone claim.requestId) (hstates : ImportState.failed ∉ states) :
    ¬b.IsOf claim states r := by
  rintro ⟨hrequest, hid, -, hstate⟩
  obtain ⟨-, r', hrequest', hgone⟩ := h
  obtain rfl := Option.some.inj (hrequest.symm.trans hrequest')
  rcases hgone with hne | hfailed
  · exact hne hid
  · exact hstates (hfailed ▸ hstate)

theorem Steps.gone {attempt : String}
    {answer : Option (Ended ImportCall ImportError ImportAnswer)} (hstep : Steps w scope b b' answer)
    (hfresh : ∀ c outcome, answer = some ⟨.claim c, outcome⟩ → requestIdOf c.uuid ∉ b.attempts)
    (h : b.Gone attempt) : b'.Gone attempt := by
  have hmem : attempt ∈ b'.attempts := by
    rcases hstep.attempts with hsame | ⟨c, a, -, hnew⟩
    · exact hsame ▸ h.1
    · exact hnew ▸ List.mem_append_left _ h.1
  have hother : ∀ {claim : WebsiteImportClaim} {states : List ImportState} {r : ImportRequest},
      b.IsOf claim states r → ImportState.failed ∉ states → r.requestId ≠ attempt := by
    rintro claim states r hof hstates rfl
    exact (hof.2.1 ▸ h : b.Gone claim.requestId).not_isOf hstates hof
  refine ⟨hmem, ?_⟩
  obtain ⟨r, hrequest, hgone⟩ := h.2
  cases hstep with
  | same => exact ⟨r, hrequest, hgone⟩
  | turn _ call a hturn =>
    cases hturn with
    | claimed c url claim _ _ hurl hclaimed =>
      cases hclaimed with
      | new policy _ hnone =>
        rw [hrequest] at hnone
        cases hnone
      | again policy _ r' hrequest' _ _ =>
        refine ⟨_, rfl, Or.inl fun heq => ?_⟩
        have hid : requestIdOf c.uuid = attempt := heq
        exact hfresh c _ rfl (hid ▸ h.1)
      | replayed => exact ⟨r, hrequest, hgone⟩
    | stored claim _ r' hof =>
      have hne := hother hof (by decide)
      exact ⟨_, rfl, Or.inl hne⟩
    | completed c policy _ r' hof =>
      have hne := hother hof (by decide)
      exact ⟨_, rfl, Or.inl hne⟩
    | failed claim code _ r' hof =>
      have hne := hother hof (by decide)
      exact ⟨_, rfl, Or.inl hne⟩

structure DoesNothing (attempt : String) (e : ImportEvent P) : Prop where
  markStoring : ∀ claim a, claim.requestId = attempt → e.output ≠ some ⟨.markStoring claim, .ok a⟩
  complete : ∀ c a, c.claim.requestId = attempt → e.output ≠ some ⟨.complete c, .ok a⟩
  fail : ∀ claim code outcome, claim.requestId = attempt → e.output = some ⟨.fail claim code, outcome⟩ →
    keyState e.post.committed = keyState e.pre.committed

omit [DecidableEq P] in
theorem Steps.doesNothing {e : ImportEvent P} {attempt : String}
    (hstep : Steps w scope (keyState e.pre.committed) (keyState e.post.committed) e.output)
    (h : (keyState e.pre.committed).Gone attempt) : DoesNothing attempt e := by
  generalize hb : keyState e.pre.committed = b at hstep h
  generalize hb' : keyState e.post.committed = b' at hstep
  generalize ho : e.output = answer at hstep
  cases hstep with
  | same _ hfree =>
    refine ⟨?_, ?_, fun _ _ _ _ _ => hb'.trans hb.symm⟩
    · rintro claim a - hanswer
      cases hfree _ _ (ho.symm.trans hanswer)
    · rintro c a - hanswer
      cases hfree _ _ (ho.symm.trans hanswer)
  | turn _ call a hturn =>
    cases hturn with
    | claimed c url claim _ _ hurl hclaimed =>
      refine ⟨?_, ?_, ?_⟩
      · intro _ _ _ hanswer
        cases ho.symm.trans hanswer
      · intro _ _ _ hanswer
        cases ho.symm.trans hanswer
      · intro _ _ _ _ hanswer
        cases ho.symm.trans hanswer
    | stored claim _ r hof =>
      refine ⟨?_, ?_, ?_⟩
      · rintro _ _ rfl hanswer
        cases ho.symm.trans hanswer
        exact h.not_isOf (by decide) hof
      · intro _ _ _ hanswer
        cases ho.symm.trans hanswer
      · intro _ _ _ _ hanswer
        cases ho.symm.trans hanswer
    | completed c policy _ r hof =>
      refine ⟨?_, ?_, ?_⟩
      · intro _ _ _ hanswer
        cases ho.symm.trans hanswer
      · rintro _ _ rfl hanswer
        cases ho.symm.trans hanswer
        exact h.not_isOf (by decide) hof
      · intro _ _ _ _ hanswer
        cases ho.symm.trans hanswer
    | failed claim code _ r hof =>
      refine ⟨?_, ?_, ?_⟩
      · intro _ _ _ hanswer
        cases ho.symm.trans hanswer
      · intro _ _ _ hanswer
        cases ho.symm.trans hanswer
      · rintro _ _ _ rfl hanswer
        cases ho.symm.trans hanswer
        exact absurd hof (h.not_isOf (by decide))

theorem later_induction (w : WebPrimitives) (scope : ImportScope) (others : Surroundings)
    (moves later : List (Move P ImportCall ImportError)) {J : KeyState → Prop} {E : ImportEvent P → Prop}
    (hJ : J (keyState ((importDatabase w scope others).run moves).committed))
    (hstep : ∀ sofar move post, moves ++ later = sofar ++ move :: post →
      let x := (importDatabase w scope others).run sofar
      let e := (importDatabase w scope others).event x move
      J (keyState x.committed) → Sane w scope (keyState x.committed) →
      Steps w scope (keyState x.committed) (keyState e.post.committed) e.output →
      J (keyState e.post.committed) ∧ E e) :
    J (keyState ((importDatabase w scope others).run (moves ++ later)).committed) ∧
      ∀ e ∈ (importDatabase w scope others).eventsFrom ((importDatabase w scope others).run moves) later,
        E e := by
  rw [Machine.run_append]
  refine (importDatabase w scope others).eventsFrom_induction
    (J := fun x => J (keyState x.committed)) hJ fun pre move post hsplit hx => ?_
  rw [← Machine.run_append] at hx ⊢
  have hreachable : (importDatabase w scope others).Reachable
      ((importDatabase w scope others).run (moves ++ pre)) := ⟨_, rfl⟩
  exact hstep (moves ++ pre) move post (by rw [hsplit, List.append_assoc]) hx
    (sane_of_reachable hreachable) (steps_next hreachable move)

/-- The import of a URL is completed with this snapshot, and the session of a claim may see both. -/
structure Replayable (w : WebPrimitives) (scope : ImportScope) (url : String) (r : ImportRequest)
    (s : SnapshotRow) (rows : ImportRows) : Prop where
  request : rows.request = some r
  completed : r.state = .completed
  url : r.fingerprint = fingerprint w scope url
  snapshots : rows.snapshots = [s]
  snapshotId : r.snapshotId = some s.snapshotId
  isOpen : rows.others.notebookOpen = true
  visible : s.snapshotId ∉ rows.others.hidden

theorem Replayable.findSnapshot {s : SnapshotRow}
    {rows : ImportRows} (h : Replayable w scope url r s rows) :
    findSnapshot r.snapshotId rows = some s := by
  have hvisible := h.visible
  simp [WebsiteImport.findSnapshot, h.snapshots, h.snapshotId, hvisible]

theorem claim_calm {policy : String} {s : SnapshotRow} (hurl : w.normalize c.url = some url)
    (hpolicy : c.policyFingerprint.filter (· ≠ "") = some policy) (hlock : c.lockFree = true) :
    ((ImportCall.claim c).program w scope).Calm (Replayable w scope url r s) (fun _ => True)
      (· = .ok (.claimed (replayedClaim r (fingerprint w scope url) s))) 4 := by
  unfold ImportCall.program claim policyFingerprint_ notebook_ lockKey
  simp only [Program.bind_assoc]
  refine calm_require hurl (calm_require hpolicy (calm_read fun v hv => ?_))
  refine calm_ensure hv.isOpen (calm_ensure hlock ?_)
  refine calm_readLocked (fun _ _ _ _ => trivial) fun v hv => ?_
  refine calm_readLocked (fun _ _ _ _ => trivial) fun v hv => ?_
  simp only [hv.request, Program.bind_assoc]
  refine calm_ensure hv.url ?_
  simp only [hv.completed, if_true, Program.bind_assoc]
  refine calm_read fun v hv => ?_
  exact calm_require hv.findSnapshot rfl

/-! ## Every run -/

/-- What holds of a key whose import is completed: it stays as it is, whatever is run later; a claim that
returns is a replay; and a claim for the URL of the key returns a replay without effect when the supplier of
the policy answers, no other claim has the lock, the notebook is open and the snapshot is not hidden. -/
def CompletedHolds (w : WebPrimitives) (scope : ImportScope) (others : Surroundings)
    (moves later : List (Move P ImportCall ImportError)) (r : ImportRequest) : Prop :=
  let db := importDatabase w scope others
  let x := db.run moves
  ∃ s, (keyState x.committed).snapshots = [s] ∧
    keyState (db.run (moves ++ later)).committed = keyState x.committed ∧
    (∀ e ∈ db.eventsFrom x later, ∀ c a, e.output = some ⟨.claim c, .ok a⟩ →
      a = .claimed (replayedClaim r r.fingerprint s)) ∧
    ∀ q c policy, x.sessions q = none → w.normalize c.url = some r.requestedUrl →
      c.policyFingerprint.filter (· ≠ "") = some policy → c.lockFree = true →
      let started := db.next x (.start q (.claim c))
      (∀ next, db.AllSteps (fun y move => y.committed.others.notebookOpen = true ∧
          s.snapshotId ∉ y.committed.others.hidden ∧ move.Leaves q) started next →
        ∀ e ∈ db.eventsFrom started next, EndsCalmly
          (· = .ok (.claimed (replayedClaim r r.fingerprint s))) (.claim c) q e) ∧
      (x.committed.others.notebookOpen = true → s.snapshotId ∉ x.committed.others.hidden →
        (∀ l, x.holder l = none) → ∃ n ≤ 4,
          db.answer (db.runFrom started (List.replicate n (.step q))) (.step q) =
            some ⟨.claim c, .ok (.claimed (replayedClaim r r.fingerprint s))⟩)

theorem completed_holds (moves later : List (Move P ImportCall ImportError))
    (hrequest : (keyState ((importDatabase w scope others).run moves).committed).request = some r)
    (hstate : r.state = .completed) : CompletedHolds w scope others moves later r := by
  unfold CompletedHolds
  intro db x
  have hreachable : db.Reachable x := ⟨moves, rfl⟩
  have hsane := sane_of_reachable hreachable
  obtain ⟨s, hsnapshots, hid, -, -⟩ := hsane.one r hrequest hstate
  obtain ⟨hlast, hevents⟩ := later_induction w scope others moves later
    (J := fun b => b = keyState x.committed)
    (E := fun e : ImportEvent P => ∀ c a, e.output = some ⟨.claim c, .ok a⟩ →
      a = .claimed (replayedClaim r r.fingerprint s)) rfl
    (by
      intro sofar move post _ y e hsame _ hstep
      rw [hsame] at hstep
      obtain ⟨hkeep, hclaim⟩ := hstep.completed hrequest hstate
      refine ⟨hkeep, fun c a hanswer => ?_⟩
      obtain ⟨url, s', -, hfingerprint, hs', rfl⟩ := hclaim c a hanswer
      rw [hsnapshots] at hs'
      rw [List.mem_singleton.1 hs', hfingerprint])
  refine ⟨s, hsnapshots, hlast, hevents, ?_⟩
  intro q c policy hidle hurl hpolicy hlock started
  have hcalm : ((ImportCall.claim c).program w scope).Calm
      (Replayable w scope r.requestedUrl r s) (fun _ => True)
      (· = .ok (.claimed (replayedClaim r (fingerprint w scope r.requestedUrl) s))) 4 :=
    claim_calm hurl hpolicy hlock
  rw [← hsane.url r hrequest] at hcalm
  refine ⟨fun next hnext e he => ?_, fun hopen hvisible hfree => ?_⟩
  · have hsteps : db.AllSteps (fun y move =>
        Replayable w scope r.requestedUrl r s y.committed ∧ move.Leaves q) started next := by
      refine db.allSteps_of (Q := fun y : Importers P =>
        db.Reachable y ∧ keyState y.committed = keyState x.committed) ?_ ?_ ?_ hnext
      · rintro y move ⟨hy, hsame⟩ -
        have hstep := steps_next hy move
        rw [hsame] at hstep
        exact ⟨hy.next move, (hstep.completed hrequest hstate).1⟩
      · rintro y move ⟨hy, hsame⟩ ⟨hopen, hvisible, hmove⟩
        have hkeep := congrArg KeyState.request hsame
        exact ⟨⟨hkeep.trans hrequest, hstate, hsane.url r hrequest,
          (congrArg KeyState.snapshots hsame).trans hsnapshots, hid, hopen, hvisible⟩, hmove⟩
      · refine ⟨hreachable.next _, ?_⟩
        exact ((steps_next hreachable (.start q (.claim c))).completed hrequest hstate).1
    exact calm_call_run hidle hcalm hsteps he
  · obtain ⟨n, hn, outcome, rfl, hanswer⟩ := calm_call_alone _ hidle hcalm
      ⟨hrequest, hstate, hsane.url r hrequest, hsnapshots, hid, hopen, hvisible⟩ fun l _ => hfree l
    exact ⟨n, hn, hanswer⟩

def sampleWeb : WebPrimitives where
  normalize := some
  sha256 bytes := String.ofList (bytes.map fun byte => Char.ofNat byte.toNat)
  isMoment _ := true

theorem sampleWeb_injective : Function.Injective sampleWeb.sha256 := by
  intro xs ys h
  refine List.map_injective_iff.2 (fun x y hxy => ?_) (String.ofList_injective h)
  have hvalue : ∀ z : UInt8, (Char.ofNat z.toNat).toNat = z.toNat := by
    intro z
    have hlt := z.toNat_lt
    have hvalid : z.toNat.isValidChar := Or.inl (by omega)
    rw [Char.ofNat, dif_pos hvalid]
    rfl
  have htoNat := congrArg Char.toNat hxy
  rw [hvalue, hvalue] at htoNat
  exact UInt8.toNat_inj.1 htoNat

def sampleScope : ImportScope := ⟨"t", "w", "a", "n", "k"⟩

def sampleOthers : Surroundings where
  notebookOpen := true
  objects := [⟨"website-request-1|raw", "completed", "x", 1, "a"⟩,
    ⟨"website-request-1|text", "completed", "x", 1, "a"⟩]
  hidden := []

def sampleClaim (uuid : String) (lockFree : Bool) : ClaimCall := ⟨"u", some "p", "v", "r", uuid, lockFree⟩

def sampleComplete : CompleteCall where
  claim := ⟨"website-request-1", fingerprint sampleWeb sampleScope "u", false, none⟩
  page :=
    { requestedUrl := "u", finalUrl := "u", redirectUrls := [], title := "", publishedAt := none
      licenseStatus := "unknown", licenseUrl := none, fetchedAt := "", rawContent := [120]
      textContent := [120], rawSha256 := "x", textSha256 := "x", extractionVersion := "website-text-v1" }
  rawObjectId := "website-request-1|raw"
  textObjectId := "website-request-1|text"
  policyVersion := "v"
  traceId := "r"
  policy := some "p"
  policyAgain := some "p"

def completedMoves : List (Move Bool ImportCall ImportError) :=
  .start false (.claim (sampleClaim "1" true)) :: List.replicate 5 (.step false) ++
    .start false (.complete sampleComplete) :: List.replicate 21 (.step false)

end DaonUser.WebsiteImport
