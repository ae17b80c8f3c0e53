import DaonUser.Notebook.Bindings
import Mathlib.Data.Finset.Card

/-!
# Notebook bindings: what is read

The selected context shows the source versions whose last successful call was a bind, and the home view
their number, exactly as long as no bind names another version of a bound source and no unbinding takes
effect (`exact_iff`). The etag of a context is always the one that the next unbinding accepts
(`etag_accepted`).
-/

namespace DaonUser.Notebook

open Lib

variable {sha256 : String → String} {notebooks : Dict String Metadata}

/-! ## The rows that are read -/

/-- No source is deleted, and none is kept from the caller. -/
structure ReadEnv.Open (env : ReadEnv) : Prop where
  deleted : ∀ sourceId, env.deleted sourceId = false
  denied : ∀ versionId, env.denied versionId = false

def ReadEnv.empty : ReadEnv := ⟨none, fun _ => false, fun _ => false, fun _ => false⟩

theorem ReadEnv.open_empty : ReadEnv.empty.Open := ⟨fun _ => rfl, fun _ => rfl⟩

def sourceRows (l : Ledger) (notebookId : String) : List BindingRow :=
  l.bindings.filter fun row => row.notebookId = notebookId ∧ row.kind = .source

def selectedPairs (l : Ledger) (env : ReadEnv) (notebookId : String) : List (String × String) :=
  (l.bindings.filter fun row => l.Selected env notebookId row).filterMap BindingRow.pair

theorem pair_eq_some {row : BindingRow} {p : String × String} :
    row.pair = some p ↔ row.kind = .source ∧ row.recordId = p.1 ∧ row.versionId = some p.2 := by
  unfold BindingRow.pair
  split
  · next hkind =>
    simp only [Option.map_eq_some_iff, hkind, true_and]
    constructor
    · rintro ⟨version, hversion, rfl⟩
      exact ⟨rfl, hversion⟩
    · rintro ⟨hrecord, hversion⟩
      exact ⟨p.2, hversion, by rw [hrecord]⟩
  · next hkind => simp [hkind]

theorem mem_selectedPairs {l : Ledger} {env : ReadEnv} (henv : env.Open) {notebookId : String}
    {p : String × String} :
    p ∈ selectedPairs l env notebookId ↔ l.Bound notebookId p.1 p.2 := by
  simp only [selectedPairs, List.mem_filterMap, List.mem_filter, decide_eq_true_eq, pair_eq_some,
    Ledger.Selected, henv.deleted, henv.denied, Ledger.Bound]
  constructor
  · rintro ⟨row, ⟨hrow, hnotebook, hunbound, -⟩, hkind, hrecord, hversion⟩
    refine ⟨⟨row, hrow, hnotebook, hkind, hrecord, hversion⟩, fun hp => hunbound ⟨hkind, p.2, ?_⟩⟩
    rw [hnotebook, hrecord]
    exact ⟨hversion, hp⟩
  · rintro ⟨⟨row, hrow, hnotebook, hkind, hrecord, hversion⟩, hunbound⟩
    refine ⟨row, ⟨hrow, hnotebook, ?_, by simp, by simp, by simp [hkind]⟩, hkind, hrecord, hversion⟩
    rintro ⟨-, version, hsome, hp⟩
    rw [hversion] at hsome
    obtain rfl := Option.some.inj hsome
    rw [hnotebook, hrecord] at hp
    exact hunbound hp

theorem nodup_selectedPairs {l : Ledger} (h : Sound l) (env : ReadEnv) (notebookId : String) :
    (selectedPairs l env notebookId).Nodup := by
  unfold selectedPairs List.Nodup
  rw [List.pairwise_filterMap]
  refine List.Pairwise.imp_of_mem (fun {row other} hrow hother hkey => ?_)
    (h.keyed.filter fun row => decide (l.Selected env notebookId row))
  simp only [List.mem_filter, decide_eq_true_eq] at hrow hother
  rintro p hp q hq rfl
  obtain ⟨hkind, hrecord, -⟩ := pair_eq_some.1 hp
  obtain ⟨hkind', hrecord', -⟩ := pair_eq_some.1 hq
  refine hkey ⟨?_, ?_, ?_⟩
  · exact hrow.2.1.trans hother.2.1.symm
  · rw [hkind, hkind']
  · rw [hrecord, hrecord']

theorem length_selectedPairs {l : Ledger} (h : Sound l) {env : ReadEnv} (henv : env.Open)
    (notebookId : String) :
    (selectedPairs l env notebookId).length =
      ((sourceRows l notebookId).filter fun row =>
        ¬∃ version ∈ row.versionId, l.Unbound notebookId row.recordId version).length := by
  have hsome : ∀ rows : List BindingRow, (∀ row ∈ rows, row.kind = .source → row.versionId ≠ none) →
      (rows.filterMap BindingRow.pair).length = (rows.filter fun row => row.kind = .source).length := by
    intro rows
    induction rows with
    | nil => exact fun _ => rfl
    | cons row rows ih =>
      intro hrows
      have ih' := ih fun other hother => hrows other (List.mem_cons_of_mem _ hother)
      by_cases hkind : row.kind = .source
      · obtain ⟨version, hversion⟩ :=
          Option.ne_none_iff_exists'.1 (hrows row List.mem_cons_self hkind)
        have hpair : row.pair = some (row.recordId, version) :=
          pair_eq_some.2 ⟨hkind, rfl, hversion⟩
        rw [List.filterMap_cons_some hpair, List.filter_cons_of_pos (by simpa using hkind),
          List.length_cons, List.length_cons, ih']
      · have hpair : row.pair = none := by simp [BindingRow.pair, hkind]
        rw [List.filterMap_cons_none hpair, List.filter_cons_of_neg (by simpa using hkind), ih']
  have hrows : ∀ row ∈ l.bindings.filter (fun row => l.Selected env notebookId row),
      row.kind = .source → row.versionId ≠ none := by
    intro row hrow
    exact h.versioned row (List.mem_filter.1 hrow).1
  rw [selectedPairs, hsome _ hrows, sourceRows, List.filter_filter, List.filter_filter]
  refine congrArg List.length (List.filter_congr fun row _ => ?_)
  simp only [Bool.decide_and, Ledger.Selected, henv.deleted, henv.denied]
  by_cases hnotebook : row.notebookId = notebookId
  · by_cases hkind : row.kind = .source
    · simp [hnotebook, hkind]
    · simp [hkind]
  · simp [hnotebook]

section

variable {l : Ledger} {env : ReadEnv} {n : String}

variable (sha256 notebooks env) in
theorem answer_readSelectedContext (hn : l.notebooks.get? n ≠ none) :
    ∃ context, (repository sha256 notebooks).answer l (.readSelectedContext env n) =
        .ok (.selected context) ∧
      context.sources = sortPairs (selectedPairs l env n) ∧
      context.etag = bindingEtag (l.bindingVersion n) := by
  refine ⟨selectedContext n (l.bindings.filter fun row => l.Selected env n row)
    (env.conversation.filter fun conversation => conversation.citations.all fun citation =>
      !citation.rawSource ||
        (selectedPairs l env n).contains (citation.sourceId, citation.sourceVersionId))
    (l.bindingVersion n), ?_, rfl, rfl⟩
  change (execute sha256 (.readSelectedContext env n) l).1 = _
  rw [execute, Call.map_apply, Notebook.readSelectedContext, requireNotebook, Call.bind_assoc,
    Call.get_bind, Call.ensure_bind hn, Call.get_bind]
  rfl

theorem notebook_of_read {context : SelectedContext}
    (hread : (repository sha256 notebooks).answer l (.readSelectedContext env n) =
      .ok (.selected context)) : l.notebooks.get? n ≠ none := by
  intro hn
  change (execute sha256 (.readSelectedContext env n) l).1 = _ at hread
  rw [execute, Call.map_apply, Notebook.readSelectedContext, requireNotebook, Call.bind_assoc,
    Call.get_bind, Call.bind_of_error (Call.ensure_of_not (not_not.2 hn))] at hread
  cases hread

theorem answer_get {row : Metadata} (hn : l.notebooks.get? n = some row) :
    (repository sha256 notebooks).answer l (.get n) = .ok (.home (homeView l n row)) := by
  change (execute sha256 (.get n) l).1 = _
  simp only [execute, Call.map_apply, Notebook.get, Call.query, hn, Except.map]

theorem answer_unbind_mismatch {context : NotebookContext} {env : Env} {u : Unbind}
    (hn : l.notebooks.get? u.notebookId ≠ none)
    (hfirst : l.unbindingKey context.actorId u.idempotencyKey = none)
    (hetag : u.expectedEtag ≠ bindingEtag (l.bindingVersion u.notebookId)) :
    (repository sha256 notebooks).answer l (.unbind context env u) =
      .error { code := "NOTEBOOK_BINDING_ETAG_MISMATCH", status := 412 } := by
  change (execute sha256 (.unbind context env u) l).1 = _
  rw [execute, Call.map_apply, unbindSource, Call.atomically, Call.get_bind, hfirst]
  simp only [requireNotebook, Call.bind_assoc, Call.get_bind, Call.ensure_bind hn]
  rw [Call.bind_of_error (Call.ensure_of_not hetag)]
  rfl

theorem answer_unbind_admitted {context : NotebookContext} {env : Env} {u : Unbind}
    (h : UnbindAdmitted sha256 l env context u) :
    ∃ view, (repository sha256 notebooks).answer l (.unbind context env u) =
      .ok (.unbound view false) := by
  have hspec := unbind_spec sha256 env context u l
  change ∃ view, (execute sha256 (.unbind context env u) l).1 = _
  rw [execute, Call.map_apply]
  unfold Call.Post at hspec
  generalize unbindSource sha256 env context u l = r at hspec ⊢
  obtain ⟨o, l'⟩ := r
  cases hspec with
  | refused hrefused e => exact absurd h hrefused
  | replayed hfound =>
    rw [h.first] at hfound
    cases hfound
  | removed admitted => exact ⟨_, rfl⟩

end

/-! ## The readers and the calls -/

variable (sha256 notebooks) in
theorem run_sound (is : List Input) :
    Sound ((repository sha256 notebooks).run is) ∧
      ((repository sha256 notebooks).run is).notebooks = notebooks := by
  refine (repository sha256 notebooks).run_induction
    (I := fun l => Sound l ∧ l.notebooks = notebooks) ⟨.init, rfl⟩ ?_ is
  rintro l i ⟨hsound, hnotebooks⟩
  have hstep := step_next sha256 notebooks (fun _ => ∅) hsound i
  exact ⟨hstep.sound, hstep.notebooks.trans hnotebooks⟩

/-- What the unbindings of a notebook under a new key make of an etag: another one is refused, and
with it every unbinding that passes the other checks takes effect. -/
structure Accepts (sha256 : String → String) (notebooks : Dict String Metadata) (l : Ledger)
    (notebookId etag : String) : Prop where
  others : ∀ context env (u : Unbind), u.notebookId = notebookId →
    l.unbindingKey context.actorId u.idempotencyKey = none → u.expectedEtag ≠ etag →
    (repository sha256 notebooks).answer l (.unbind context env u) =
      .error { code := "NOTEBOOK_BINDING_ETAG_MISMATCH", status := 412 }
  accepted : ∀ context env (u : Unbind), u.notebookId = notebookId →
    l.unbindingKey context.actorId u.idempotencyKey = none → u.expectedEtag = etag →
    l.Bound u.notebookId u.sourceId u.sourceVersionId →
    (∀ row ∈ l.audit, row.eventId ≠ unbindAuditId sha256 context u.idempotencyKey) →
    env.fails = false →
    ∃ view, (repository sha256 notebooks).answer l (.unbind context env u) =
      .ok (.unbound view false)

theorem etag_accepted (is js : List Input) {env : ReadEnv} {n : String} {context : SelectedContext}
    (hread : (repository sha256 notebooks).answer ((repository sha256 notebooks).run is)
      (.readSelectedContext env n) = .ok (.selected context))
    (hjs : (repository sha256 notebooks).AllSteps (fun l i => ¬TakesEffect sha256 l n i)
      ((repository sha256 notebooks).run is) js) :
    Accepts sha256 notebooks ((repository sha256 notebooks).run (is ++ js)) n context.etag := by
  have hn := notebook_of_read hread
  obtain ⟨context', hcontext', -, hetag⟩ :=
    answer_readSelectedContext sha256 notebooks env hn
  obtain rfl : context = context' := by
    rw [hread] at hcontext'
    exact Reply.selected.inj (Except.ok.inj hcontext')
  -- the calls in between leave the number of unbindings of the notebook as it is
  have hversion : ((repository sha256 notebooks).run (is ++ js)).bindingVersion n =
      ((repository sha256 notebooks).run is).bindingVersion n := by
    rw [Machine.run_append]
    refine ((repository sha256 notebooks).runFrom_induction_of (I := fun l => Sound l ∧
      l.bindingVersion n = ((repository sha256 notebooks).run is).bindingVersion n)
      ?_ ⟨(run_sound sha256 notebooks is).1, rfl⟩ hjs).2
    rintro l i ⟨hsound, hsame⟩ heffect
    have hstep := step_next sha256 notebooks (fun _ => ∅) hsound i
    exact ⟨hstep.sound, (hstep.bindingVersion heffect).trans hsame⟩
  have hn' : ((repository sha256 notebooks).run (is ++ js)).notebooks.get? n ≠ none := by
    rw [(run_sound sha256 notebooks (is ++ js)).2, ← (run_sound sha256 notebooks is).2]
    exact hn
  rw [hetag, ← hversion]
  constructor
  · rintro call env u rfl hfirst hne
    exact answer_unbind_mismatch hn' hfirst hne
  · rintro call env u rfl hfirst hsame hbound hunaudited hcommits
    exact answer_unbind_admitted ⟨hfirst, hn', hsame, hbound, hunaudited, hcommits⟩

/-- The readers agree with the calls so far: the selected context of every notebook shows the source
versions whose last successful call was a bind, each once, and the home view their number; and the
etag of a context is accepted until an unbinding takes effect. -/
structure Exact (sha256 : String → String) (notebooks : Dict String Metadata) (is : List Input) :
    Prop where
  sources : ∀ env : ReadEnv, env.Open → ∀ n, notebooks.get? n ≠ none → ∃ context,
    (repository sha256 notebooks).answer ((repository sha256 notebooks).run is)
      (.readSelectedContext env n) = .ok (.selected context) ∧
    context.sources.Nodup ∧
    ∀ p, p ∈ context.sources ↔ p ∈ bound ((repository sha256 notebooks).events is) n
  sourceCount : ∀ n, notebooks.get? n ≠ none → ∃ view,
    (repository sha256 notebooks).answer ((repository sha256 notebooks).run is) (.get n) =
      .ok (.home view) ∧
    view.sourceCount = (bound ((repository sha256 notebooks).events is) n).card
  etag : ∀ env n context,
    (repository sha256 notebooks).answer ((repository sha256 notebooks).run is)
      (.readSelectedContext env n) = .ok (.selected context) →
    ∀ js, (repository sha256 notebooks).AllSteps (fun l i => ¬TakesEffect sha256 l n i)
      ((repository sha256 notebooks).run is) js →
    Accepts sha256 notebooks ((repository sha256 notebooks).run (is ++ js)) n context.etag

theorem length_sourceRows_iff {l : Ledger} {S : String → Finset (String × String)} {n : String}
    (h : Sound l) (hshows : Shows l S) (hn : l.notebooks.get? n ≠ none) :
    (sourceRows l n).length = (S n).card ↔ ∀ row ∈ l.unbindings, row.notebookId ≠ n := by
  have hcard : (S n).card = (selectedPairs l ReadEnv.empty n).length := by
    have hfinset : S n = (selectedPairs l ReadEnv.empty n).toFinset := by
      ext p
      rw [List.mem_toFinset, mem_selectedPairs ReadEnv.open_empty, hshows n hn]
    rw [hfinset, List.toFinset_card_of_nodup (nodup_selectedPairs h _ n)]
  rw [hcard, length_selectedPairs h ReadEnv.open_empty, eq_comm,
    List.length_filter_eq_length_iff]
  constructor
  · intro hall row hrow hrown
    obtain ⟨b, hb, hbn, hbk, hbr, hbv⟩ := h.unbound row hrow
    have hmem : b ∈ sourceRows l n := List.mem_filter.2 ⟨hb, by simp [hbn, hbk, hrown]⟩
    refine of_decide_eq_true (hall b hmem) ⟨row.sourceVersionId, hbv, row, hrow, hrown, ?_⟩
    exact ⟨hbr.symm, rfl⟩
  · intro hnone row _
    refine decide_eq_true ?_
    rintro ⟨version, -, other, hother, hothern, -⟩
    exact hnone other hother hothern

theorem exact_iff_shows (is : List Input) :
    Exact sha256 notebooks is ↔
      Shows ((repository sha256 notebooks).run is)
        (bound ((repository sha256 notebooks).events is)) ∧
      ((repository sha256 notebooks).run is).unbindings = [] := by
  obtain ⟨hsound, hnotebooks⟩ := run_sound sha256 notebooks is
  set l := (repository sha256 notebooks).run is with hl
  set S := bound ((repository sha256 notebooks).events is) with hS
  have hread : ∀ {env : ReadEnv}, env.Open → ∀ {n : String}, l.notebooks.get? n ≠ none →
      ∃ context, (repository sha256 notebooks).answer l (.readSelectedContext env n) =
        .ok (.selected context) ∧ context.sources.Perm (selectedPairs l env n) := by
    intro env henv n hn
    obtain ⟨context, hcontext, hsources, -⟩ :=
      answer_readSelectedContext sha256 notebooks env hn
    refine ⟨context, hcontext, ?_⟩
    rw [hsources]
    exact List.mergeSort_perm ..
  constructor
  · intro h
    have hshows : Shows l S := by
      intro n hn p
      obtain ⟨context, hcontext, -, hmem⟩ := h.sources _ ReadEnv.open_empty n (hnotebooks ▸ hn)
      obtain ⟨context', hcontext', hperm⟩ := hread ReadEnv.open_empty hn
      obtain rfl : context = context' := by
        rw [hcontext] at hcontext'
        exact Reply.selected.inj (Except.ok.inj hcontext')
      rw [← hmem p, hperm.mem_iff, mem_selectedPairs ReadEnv.open_empty]
    refine ⟨hshows, List.eq_nil_iff_forall_not_mem.2 fun row hrow => ?_⟩
    obtain ⟨b, hb, hbn, -⟩ := hsound.unbound row hrow
    have hn : l.notebooks.get? row.notebookId ≠ none := hbn ▸ hsound.notebooks b hb
    obtain ⟨view, hview, hsize⟩ := h.sourceCount row.notebookId (hnotebooks ▸ hn)
    obtain ⟨metadata, hmetadata⟩ := Option.ne_none_iff_exists'.1 hn
    rw [answer_get hmetadata] at hview
    obtain rfl := Reply.home.inj (Except.ok.inj hview)
    exact (length_sourceRows_iff hsound hshows hn).1 hsize row hrow rfl
  · rintro ⟨hshows, hnone⟩
    refine ⟨fun env henv n hn => ?_, fun n hn => ?_, fun env n context hcontext js hjs => ?_⟩
    · rw [← hnotebooks] at hn
      obtain ⟨context, hcontext, hperm⟩ := hread henv hn
      refine ⟨context, hcontext, hperm.nodup_iff.2 (nodup_selectedPairs hsound env n), fun p => ?_⟩
      rw [hperm.mem_iff, mem_selectedPairs henv, hshows n hn]
    · rw [← hnotebooks] at hn
      obtain ⟨metadata, hmetadata⟩ := Option.ne_none_iff_exists'.1 hn
      refine ⟨_, answer_get hmetadata, (length_sourceRows_iff hsound hshows hn).2 ?_⟩
      simp [hnone]
    · exact etag_accepted is js hcontext hjs

/-- No bind names another version of a bound source or one that was unbound, and no unbinding takes
effect. -/
def Keeps (sha256 : String → String) (l : Ledger) (i : Input) : Prop :=
  Fresh l i ∧ ∀ n, ¬TakesEffect sha256 l n i

/-- In every run whose calls all keep the sets, and in no other, the readers agree with the calls
after each of them. -/
theorem exact_iff (is : List Input) :
    (∀ pre, pre <+: is → Exact sha256 notebooks pre) ↔
      (repository sha256 notebooks).AllSteps (Keeps sha256) (repository sha256 notebooks).init
        is := by
  refine (repository sha256 notebooks).prefixes_iff_allSteps ?_ ?_ is
  · rw [exact_iff_shows]
    refine ⟨fun n _ p => ?_, rfl⟩
    simp [Machine.events, Machine.eventsFrom, bound, Ledger.Bound, repository]
  · intro is i hexact
    rw [exact_iff_shows] at hexact ⊢
    obtain ⟨hshows, hnone⟩ := hexact
    have hstep := step_next sha256 notebooks
      (bound ((repository sha256 notebooks).events is)) (run_sound sha256 notebooks is).1 i
    rw [Machine.run_concat, Machine.events_concat]
    refine and_congr ?_ ?_
    · rw [← hstep.shows hshows]
      refine iff_of_eq (congrArg _ (funext fun n => ?_))
      exact bound_concat ..
    · rcases hstep.unbindings with ⟨hsame, hno⟩ | ⟨row, hrow, heffect⟩
      · rw [hsame]
        exact iff_of_true hnone hno
      · rw [hrow]
        refine iff_of_false (by simp) fun hno => ?_
        exact hno row.notebookId ((heffect _).2 rfl)

namespace Rebound

def workspace : Dict String Metadata := Dict.empty.set "notebook-1" ⟨"Notes", 0, 1⟩

theorem context_safe : isSafeId "tenant-1" = true ∧ isSafeId "actor-1" = true := by
  decide

def context : NotebookContext := ⟨"tenant-1", "actor-1", context_safe⟩

def bind (now : Int) : Input :=
  .bind context ⟨true, false⟩ "notebook-1" "source" "source-1" (some "version-1") now

def unbind : Input :=
  .unbind context ⟨true, false⟩
    ⟨"notebook-1", "source-1", "version-1", bindingEtag 1, "key-1", "fingerprint-1", 1⟩

def calls : List Input := [bind 0, unbind, bind 2]

end Rebound

/-- The second bind succeeds, and the source is not selected. After the unbinding alone, the home
view still counts it. -/
theorem rebound_not_selected :
    ((repository id Rebound.workspace).events Rebound.calls).map (·.output) =
      [.ok (.bound false),
        .ok (.unbound ⟨"notebook-1", "source-1", "version-1", bindingEtag 2⟩ false),
        .ok (.bound true)] ∧
    ¬Exact id Rebound.workspace Rebound.calls ∧
    ¬Exact id Rebound.workspace (Rebound.calls.take 2) := by
  refine ⟨by decide, fun h => ?_, fun h => ?_⟩
  · obtain ⟨context, hcontext, -, hmem⟩ :=
      h.sources ReadEnv.empty ReadEnv.open_empty "notebook-1" (by decide)
    have hread : (repository id Rebound.workspace).answer
        ((repository id Rebound.workspace).run Rebound.calls)
        (.readSelectedContext ReadEnv.empty "notebook-1") =
        .ok (.selected ⟨"notebook-1", [], [], [], [], [], [], none, bindingEtag 2⟩) := by
      decide +kernel
    rw [hread] at hcontext
    obtain rfl := Reply.selected.inj (Except.ok.inj hcontext)
    have hbound : ("source-1", "version-1") ∈
        bound ((repository id Rebound.workspace).events Rebound.calls) "notebook-1" := by
      decide
    cases (hmem _).2 hbound
  · obtain ⟨view, hview, hsize⟩ := h.sourceCount "notebook-1" (by decide)
    have hread : (repository id Rebound.workspace).answer
        ((repository id Rebound.workspace).run (Rebound.calls.take 2)) (.get "notebook-1") =
        .ok (.home ⟨"notebook-1", "Notes", 1, 0, 0, .active, "\"notebook:1\""⟩) := by
      decide
    rw [hread] at hview
    obtain rfl := Reply.home.inj (Except.ok.inj hview)
    have hbound : (bound ((repository id Rebound.workspace).events (Rebound.calls.take 2))
        "notebook-1").card = 0 := by
      decide
    cases hsize.trans hbound

end DaonUser.Notebook
