import DaonUser.Lib.SetHistory
import DaonUser.Notebook.Model
import Mathlib.Data.List.Pairwise

/-!
# Notebook bindings: the set that the calls leave

`bind_spec` and `unbind_spec` say what the two methods do, `Sound` what the rows satisfy after any
calls. `bound` is the set of source versions whose last successful call was a bind; the rows show it
until a bind finds its source bound to another version or unbound before (`step_next`).
-/

namespace DaonUser.Notebook

open Lib

variable {l : Ledger} {env : Env} {context : NotebookContext} {u : Unbind} {n : String}
  {o : Except NotebookError Reply}

variable {sha256 : String → String} {notebooks : Dict String Metadata}

/-! ## `bind_verified` -/

structure BindAdmitted (l : Ledger) (env : Env) (notebookId bindingKind : String)
    (versionId : Option String) (kind : BindingKind) : Prop where
  notebook : l.notebooks.get? notebookId ≠ none
  text : BindingKind.ofText bindingKind = some kind
  version : kind = .source ↔ versionId ≠ none
  found : env.found = true
  commits : env.fails = false

/-- What `bind_verified` answers and leaves. -/
inductive Binds (l : Ledger) (env : Env) (context : NotebookContext)
    (notebookId bindingKind recordId : String) (versionId : Option String) (now : Int) :
    Except NotebookError Bool → Ledger → Prop where
  | refused (refused : ∀ kind, ¬BindAdmitted l env notebookId bindingKind versionId kind)
      (e : NotebookError) : Binds l env context notebookId bindingKind recordId versionId now
        (.error e) l
  | present {kind : BindingKind}
      (admitted : BindAdmitted l env notebookId bindingKind versionId kind)
      (present : ∃ other ∈ l.bindings,
        other.SameKey ⟨notebookId, kind, recordId, versionId, context.actorId, now⟩) :
      Binds l env context notebookId bindingKind recordId versionId now (.ok true) l
  | added {kind : BindingKind}
      (admitted : BindAdmitted l env notebookId bindingKind versionId kind)
      (new : ∀ other ∈ l.bindings,
        ¬other.SameKey ⟨notebookId, kind, recordId, versionId, context.actorId, now⟩) :
      Binds l env context notebookId bindingKind recordId versionId now (.ok false)
        (Ledger.logActivity { l with bindings := l.bindings ++
          [⟨notebookId, kind, recordId, versionId, context.actorId, now⟩] } notebookId
          .contextBound context.actorId now)

theorem post_requireNotebook {α : Type} {notebookId : String}
    {f : PUnit → Transaction α} {Q : Except NotebookError α → Ledger → Prop}
    (herror : l.notebooks.get? notebookId = none → ∀ e, Q (.error e) l)
    (hok : l.notebooks.get? notebookId ≠ none → Call.Post (f ⟨⟩) l Q) :
    Call.Post (requireNotebook notebookId >>= f) l Q := by
  rw [requireNotebook, Call.bind_assoc]
  apply Call.post_get
  exact Call.post_ensure (fun h => herror (not_not.1 h) _) hok

theorem post_requireTarget {α : Type} {kind : Option BindingKind}
    {versionId : Option String} {f : BindingKind → Transaction α}
    {Q : Except NotebookError α → Ledger → Prop}
    (herror : (∀ k, ¬(kind = some k ∧ (k = .source ↔ versionId ≠ none) ∧ env.found = true)) →
      ∀ e, Q (.error e) l)
    (hok : ∀ k, kind = some k → (k = .source ↔ versionId ≠ none) → env.found = true →
      Call.Post (f k) l Q) :
    Call.Post (requireTarget env kind versionId >>= f) l Q := by
  cases kind with
  | none =>
    refine herror ?_ _
    rintro k ⟨h, -⟩
    cases h
  | some k =>
    by_cases hk : k = .source
    · subst hk
      rw [requireTarget, Call.bind_assoc]
      refine Call.post_ensure (fun h => herror ?_ _) fun hversion => ?_
      · rintro k' ⟨hk', hiff, -⟩
        exact h (hiff.1 (Option.some.inj hk').symm)
      rw [Call.bind_assoc]
      refine Call.post_ensure (fun h => herror ?_ _) fun hfound => ?_
      · rintro k' ⟨-, -, hfound⟩
        exact h hfound
      exact hok _ rfl ⟨fun _ => hversion, fun _ => rfl⟩ hfound
    · have htarget : requireTarget env (some k) versionId = (do
          Call.ensure (versionId = none) { code := "NOTEBOOK_BINDING_KIND_INVALID" }
          Call.ensure (env.found = true)
            { code := "NOTEBOOK_BINDING_TARGET_NOT_FOUND", status := 404 }
          return k) := by
        cases k with
        | source => exact absurd rfl hk
        | knowledgeContext => rfl
        | conversationThread => rfl
        | studioOutput => rfl
        | outputVersion => rfl
        | generationSettings => rfl
      rw [htarget, Call.bind_assoc]
      refine Call.post_ensure (fun h => herror ?_ _) fun hversion => ?_
      · rintro k' ⟨hk', hiff, -⟩
        obtain rfl := Option.some.inj hk'
        exact hk (hiff.2 h)
      rw [Call.bind_assoc]
      refine Call.post_ensure (fun h => herror ?_ _) fun hfound => ?_
      · rintro k' ⟨-, -, hfound⟩
        exact h hfound
      exact hok _ rfl ⟨fun h => absurd h hk, fun h => absurd hversion h⟩ hfound

theorem bind_spec (env : Env) (context : NotebookContext)
    (notebookId bindingKind recordId : String) (versionId : Option String) (now : Int)
    (l : Ledger) :
    Call.Post (bindVerified env context notebookId bindingKind recordId versionId now) l
      (Binds l env context notebookId bindingKind recordId versionId now) := by
  refine Call.post_atomically (post_requireNotebook (fun h e => ?_) fun notebook => ?_)
  · exact .refused (fun kind hadmitted => hadmitted.notebook h) e
  refine post_requireTarget (fun h e => ?_) fun kind hkind hversion found => ?_
  · exact .refused (fun kind hadmitted =>
      h kind ⟨hadmitted.text, hadmitted.version, hadmitted.found⟩) e
  refine Call.post_ensure (fun h => ?_) fun commits => ?_
  · exact .refused (fun kind hadmitted => h hadmitted.commits) _
  have admitted : BindAdmitted l env notebookId bindingKind versionId kind :=
    ⟨notebook, hkind, hversion, found, commits⟩
  refine Call.post_get (Call.post_ite (fun present => ?_) fun new => ?_)
  · exact .present admitted present
  · exact .added admitted fun other hother hkey => new ⟨other, hother, hkey⟩

/-- The call is the first one under its key, it passes its checks and the database does not fail:
the unbinding takes effect. -/
structure UnbindAdmitted (sha256 : String → String) (l : Ledger) (env : Env)
    (context : NotebookContext) (u : Unbind) : Prop where
  first : l.unbindingKey context.actorId u.idempotencyKey = none
  notebook : l.notebooks.get? u.notebookId ≠ none
  etag : u.expectedEtag = bindingEtag (l.bindingVersion u.notebookId)
  bound : l.Bound u.notebookId u.sourceId u.sourceVersionId
  unaudited : ∀ row ∈ l.audit, row.eventId ≠ unbindAuditId sha256 context u.idempotencyKey
  commits : env.fails = false

/-- What `unbind_source` answers and leaves. -/
inductive Unbinds (sha256 : String → String) (l : Ledger) (env : Env) (context : NotebookContext)
    (u : Unbind) : Except NotebookError (BindingChangeView × Bool) → Ledger → Prop where
  | refused (refused : ¬UnbindAdmitted sha256 l env context u) (e : NotebookError) :
      Unbinds sha256 l env context u (.error e) l
  | replayed {row : UnbindingKeyRow}
      (found : l.unbindingKey context.actorId u.idempotencyKey = some row) :
      Unbinds sha256 l env context u (.ok (⟨row.notebookId, row.sourceId, row.sourceVersionId,
        bindingEtag row.bindingVersion⟩, true)) l
  | removed (admitted : UnbindAdmitted sha256 l env context u) :
      Unbinds sha256 l env context u (.ok (⟨u.notebookId, u.sourceId, u.sourceVersionId,
        bindingEtag (l.bindingVersion u.notebookId + 1)⟩, false)) (l.unbind sha256 context u)

variable (sha256) in
theorem unbind_spec (env : Env) (context : NotebookContext) (u : Unbind) (l : Ledger) :
    Call.Post (unbindSource sha256 env context u) l (Unbinds sha256 l env context u) := by
  refine Call.post_atomically (Call.post_get ?_)
  cases hfirst : l.unbindingKey context.actorId u.idempotencyKey with
  | some row =>
    refine Call.post_ensure (fun _ => .refused (fun h => ?_) _) fun _ => .replayed hfirst
    simp [h.first] at hfirst
  | none =>
    refine post_requireNotebook (fun h e => ?_) fun notebook => ?_
    · exact .refused (fun hadmitted => hadmitted.notebook h) e
    refine Call.post_ensure (fun h => .refused (fun hadmitted => h hadmitted.etag) _) fun etag => ?_
    refine Call.post_ensure (fun h => .refused (fun hadmitted => h hadmitted.bound) _)
      fun bound => ?_
    refine Call.post_ensure (fun h => .refused (fun hadmitted => h hadmitted.unaudited) _)
      fun unaudited => ?_
    refine Call.post_ensure (fun h => .refused (fun hadmitted => h hadmitted.commits) _)
      fun commits => ?_
    exact .removed ⟨hfirst, notebook, etag, bound, unaudited, commits⟩

structure Sound (l : Ledger) : Prop where
  notebooks : ∀ row ∈ l.bindings, l.notebooks.get? row.notebookId ≠ none
  keyed : l.bindings.Pairwise fun row other => ¬row.SameKey other
  versioned : ∀ row ∈ l.bindings, row.kind = .source → row.versionId ≠ none
  unbound : ∀ row ∈ l.unbindings, ∃ b ∈ l.bindings, b.notebookId = row.notebookId ∧
    b.kind = .source ∧ b.recordId = row.sourceId ∧ b.versionId = some row.sourceVersionId
  keys : ∀ row ∈ l.unbindingKeys, l.Unbound row.notebookId row.sourceId row.sourceVersionId

theorem Sound.eq_of_key (h : Sound l) {row other : BindingRow}
    (hrow : row ∈ l.bindings) (hother : other ∈ l.bindings) (hkey : row.SameKey other) :
    row = other := by
  have : Std.Symm fun row other : BindingRow => ¬row.SameKey other :=
    ⟨fun _ _ hne hsame => hne ⟨hsame.1.symm, hsame.2.1.symm, hsame.2.2.symm⟩⟩
  by_contra hne
  exact List.Pairwise.forall h.keyed hrow hother hne hkey

theorem unbound_unbind {s v : String} :
    (l.unbind sha256 context u).Unbound n s v ↔
      l.Unbound n s v ∨ (u.notebookId = n ∧ u.sourceId = s ∧ u.sourceVersionId = v) := by
  simp [Ledger.Unbound, Ledger.unbind, Ledger.logActivity, or_and_right, exists_or]

theorem Sound.init : Sound (repository sha256 notebooks).init :=
  ⟨by simp [repository], List.Pairwise.nil, by simp [repository], by simp [repository],
    by simp [repository]⟩

theorem Sound.bind (h : Sound l) {row : BindingRow} (hnotebook : l.notebooks.get? row.notebookId ≠ none)
    (hversion : row.kind = .source → row.versionId ≠ none)
    (hnew : ∀ other ∈ l.bindings, ¬other.SameKey row) :
    Sound { l with bindings := l.bindings ++ [row] } where
  notebooks := by
    simp only [List.mem_append, List.mem_singleton]
    rintro other (hother | rfl)
    · exact h.notebooks other hother
    · exact hnotebook
  keyed := by
    refine List.pairwise_append.2 ⟨h.keyed, List.pairwise_singleton .., ?_⟩
    simpa using hnew
  versioned := by
    simp only [List.mem_append, List.mem_singleton]
    rintro other (hother | rfl)
    · exact h.versioned other hother
    · exact hversion
  unbound other hother := by
    obtain ⟨b, hb, hrow⟩ := h.unbound other hother
    exact ⟨b, List.mem_append_left _ hb, hrow⟩
  keys := h.keys

theorem Sound.unbind (h : Sound l) (hbound : l.Bound u.notebookId u.sourceId u.sourceVersionId) :
    Sound (l.unbind sha256 context u) where
  notebooks := h.notebooks
  keyed := h.keyed
  versioned := h.versioned
  unbound := by
    simp only [Ledger.unbind, Ledger.logActivity, List.mem_append, List.mem_singleton]
    rintro other (hother | rfl)
    · exact h.unbound other hother
    · exact hbound.1
  keys := by
    simp only [Ledger.unbind, Ledger.logActivity, List.mem_append, List.mem_singleton]
    rintro other (hother | rfl)
    · exact unbound_unbind.2 (Or.inl (h.keys other hother))
    · exact unbound_unbind.2 (Or.inr ⟨rfl, rfl, rfl⟩)

abbrev CallEvent := Event Ledger Input (Except NotebookError Reply)

/-- What a successful call does to the set of bound source versions of a notebook. -/
def change (notebookId : String) (e : CallEvent) : Option (SetOp (String × String)) :=
  match e.input, e.output with
  | .bind _ _ n kind sourceId (some versionId) _, .ok (.bound _) =>
    if n = notebookId ∧ BindingKind.ofText kind = some .source then some (.add (sourceId, versionId))
    else none
  | .unbind .., .ok (.unbound view _) =>
    if view.notebookId = notebookId then some (.remove (view.sourceId, view.sourceVersionId))
    else none
  | _, _ => none

def bound (history : List CallEvent) (notebookId : String) : Finset (String × String) :=
  settle (history.filterMap (change notebookId))

theorem bound_concat (history : List CallEvent) (e : CallEvent) (notebookId : String) :
    bound (history ++ [e]) notebookId =
      match change notebookId e with
      | none => bound history notebookId
      | some op => op.apply (bound history notebookId) := by
  unfold bound
  rw [List.filterMap_append]
  cases hchange : change notebookId e with
  | none => simp [hchange]
  | some op => simp [hchange]

def changed (S : String → Finset (String × String)) (e : CallEvent) (notebookId : String) :
    Finset (String × String) :=
  match change notebookId e with
  | none => S notebookId
  | some op => op.apply (S notebookId)

/-- The rows show these sets. -/
def Shows (l : Ledger) (S : String → Finset (String × String)) : Prop :=
  ∀ n, l.notebooks.get? n ≠ none → ∀ p, p ∈ S n ↔ l.Bound n p.1 p.2

/-! ## One call -/

/-- A bind that goes through finds its source bound to no other version, and not unbound. -/
def Fresh (l : Ledger) : Input → Prop
  | .bind _ env n kind sourceId (some versionId) _ =>
    BindAdmitted l env n kind (some versionId) .source →
      (∀ row ∈ l.bindings, row.notebookId = n → row.kind = .source → row.recordId = sourceId →
        row.versionId = some versionId) ∧ ¬l.Unbound n sourceId versionId
  | _ => True

theorem bound_bind (row : BindingRow) {s v : String} :
    Ledger.Bound { l with bindings := l.bindings ++ [row] } n s v ↔
      l.Bound n s v ∨ ((row.notebookId = n ∧ row.kind = .source ∧ row.recordId = s ∧
        row.versionId = some v) ∧ ¬l.Unbound n s v) := by
  simp only [Ledger.Bound, List.mem_append, List.mem_singleton, or_and_right, exists_or,
    exists_eq_left]
  rfl

theorem bound_unbind {s v : String} :
    (l.unbind sha256 context u).Bound n s v ↔
      l.Bound n s v ∧ ¬(u.notebookId = n ∧ u.sourceId = s ∧ u.sourceVersionId = v) := by
  unfold Ledger.Bound
  rw [unbound_unbind, not_or, ← and_assoc]
  rfl

section

variable {l l' : Ledger} {S : String → Finset (String × String)}

theorem changed_bind {kind sourceId versionId : String} {now : Int} {replayed : Bool} (n' : String) :
    changed S ⟨l, .bind context env n kind sourceId (some versionId) now, .ok (.bound replayed), l'⟩
        n' =
      if n = n' ∧ BindingKind.ofText kind = some .source then insert (sourceId, versionId) (S n')
      else S n' := by
  simp only [changed, change]
  by_cases h : n = n' ∧ BindingKind.ofText kind = some .source
  · rw [if_pos h, if_pos h]
    rfl
  · rw [if_neg h, if_neg h]

theorem changed_unbind {view : BindingChangeView} {replayed : Bool} (n' : String) :
    changed S ⟨l, .unbind context env u, .ok (.unbound view replayed), l'⟩ n' =
      if view.notebookId = n' then (S n').erase (view.sourceId, view.sourceVersionId)
      else S n' := by
  simp only [changed, change]
  by_cases h : view.notebookId = n'
  · rw [if_pos h, if_pos h]
    rfl
  · rw [if_neg h, if_neg h]

theorem shows_present (h : Sound l) (hshows : Shows l S) {kind sourceId versionId : String} {now : Int}
    (admitted : BindAdmitted l env n kind (some versionId) .source)
    (present : ∃ other ∈ l.bindings,
      other.SameKey ⟨n, .source, sourceId, some versionId, context.actorId, now⟩) :
    Shows l (changed S
        ⟨l, .bind context env n kind sourceId (some versionId) now, .ok (.bound true), l⟩) ↔
      Fresh l (.bind context env n kind sourceId (some versionId) now) := by
  obtain ⟨other, hother, hnotebook, hkind, hrecord⟩ := present
  have hsame : ∀ row ∈ l.bindings, row.notebookId = n → row.kind = .source →
      row.recordId = sourceId → row = other := by
    intro row hrow hn hk hr
    exact h.eq_of_key hrow hother
      ⟨hn.trans hnotebook.symm, hk.trans hkind.symm, hr.trans hrecord.symm⟩
  have hbound : l.Bound n sourceId versionId ↔
      (∀ row ∈ l.bindings, row.notebookId = n → row.kind = .source → row.recordId = sourceId →
        row.versionId = some versionId) ∧ ¬l.Unbound n sourceId versionId := by
    refine and_congr_left fun _ => ?_
    constructor
    · rintro ⟨row, hrow, hn, hk, hr, hv⟩ row' hrow' hn' hk' hr'
      rw [hsame row' hrow' hn' hk' hr', ← hsame row hrow hn hk hr, hv]
    · intro hall
      exact ⟨other, hother, hnotebook, hkind, hrecord,
        hall other hother hnotebook hkind hrecord⟩
  have hfresh : Fresh l (.bind context env n kind sourceId (some versionId) now) ↔
      l.Bound n sourceId versionId := by
    rw [hbound]
    exact ⟨fun hf => hf admitted, fun hb _ => hb⟩
  rw [hfresh]
  constructor
  · intro hnew
    have hmem := (hnew n admitted.notebook (sourceId, versionId)).1
    refine hmem ?_
    rw [changed_bind, if_pos ⟨rfl, admitted.text⟩]
    exact Finset.mem_insert_self ..
  · intro hb n' hn' p
    rw [changed_bind]
    split
    · next heq =>
      obtain ⟨rfl, -⟩ := heq
      rw [Finset.mem_insert, hshows n hn' p]
      refine or_iff_right_of_imp ?_
      rintro rfl
      exact hb
    · exact hshows n' hn' p

theorem shows_added (h : Sound l) (hshows : Shows l S) {kind sourceId versionId : String} {now : Int}
    (admitted : BindAdmitted l env n kind (some versionId) .source)
    (new : ∀ other ∈ l.bindings,
      ¬other.SameKey ⟨n, .source, sourceId, some versionId, context.actorId, now⟩)
    (hbindings : l'.bindings = l.bindings ++
      [⟨n, .source, sourceId, some versionId, context.actorId, now⟩])
    (hunbindings : l'.unbindings = l.unbindings) (hnotebooks : l'.notebooks = l.notebooks) :
    Shows l' (changed S
        ⟨l, .bind context env n kind sourceId (some versionId) now, .ok (.bound false), l'⟩) ∧
      Fresh l (.bind context env n kind sourceId (some versionId) now) := by
  have hunbound : ¬l.Unbound n sourceId versionId := by
    rintro ⟨row, hrow, rfl, rfl, rfl⟩
    obtain ⟨b, hb, hn, hk, hr, -⟩ := h.unbound row hrow
    exact new b hb ⟨hn, hk, hr⟩
  constructor
  · intro n' hn' p
    rw [hnotebooks] at hn'
    have hbound : l'.Bound n' p.1 p.2 ↔
        l.Bound n' p.1 p.2 ∨ (n = n' ∧ sourceId = p.1 ∧ versionId = p.2) := by
      have hrows : l'.Bound n' p.1 p.2 ↔ Ledger.Bound { l with bindings := l.bindings ++
          [⟨n, .source, sourceId, some versionId, context.actorId, now⟩] } n' p.1 p.2 := by
        simp only [Ledger.Bound, Ledger.Unbound, hbindings, hunbindings]
      rw [hrows, bound_bind]
      refine or_congr_right ?_
      constructor
      · rintro ⟨⟨hn, -, hs, hv⟩, -⟩
        exact ⟨hn, hs, Option.some.inj hv⟩
      · rintro ⟨rfl, rfl, rfl⟩
        exact ⟨⟨rfl, rfl, rfl, rfl⟩, hunbound⟩
    rw [hbound, changed_bind]
    split
    · next heq =>
      obtain ⟨rfl, -⟩ := heq
      rw [Finset.mem_insert, hshows n hn' p, or_comm]
      refine or_congr_right ?_
      rw [Prod.ext_iff]
      simp [eq_comm]
    · next hne =>
      rw [hshows n' hn' p, or_iff_left]
      rintro ⟨rfl, -, -⟩
      exact hne ⟨rfl, admitted.text⟩
  · intro _
    exact ⟨fun row hrow hn hk hr => absurd ⟨hn, hk, hr⟩ (new row hrow), hunbound⟩

theorem changed_other (context : NotebookContext) {kind recordId : String}
    {versionId : Option String} {now : Int} {k : BindingKind}
    (admitted : BindAdmitted l env n kind versionId k) (hk : k ≠ .source) :
    changed S ⟨l, .bind context env n kind recordId versionId now, o, l'⟩ = S ∧
      Fresh l (.bind context env n kind recordId versionId now) := by
  cases versionId with
  | some version => exact absurd (admitted.version.2 (by simp)) hk
  | none => exact ⟨rfl, trivial⟩

def TakesEffect (sha256 : String → String) (l : Ledger) (notebookId : String) : Input → Prop
  | .unbind context env u => u.notebookId = notebookId ∧ UnbindAdmitted sha256 l env context u
  | _ => False

structure Step (sha256 : String → String) (S : String → Finset (String × String)) (l : Ledger)
    (i : Input) (o : Except NotebookError Reply) (l' : Ledger) : Prop where
  sound : Sound l'
  notebooks : l'.notebooks = l.notebooks
  unbindings : l'.unbindings = l.unbindings ∧ (∀ n, ¬TakesEffect sha256 l n i) ∨
    ∃ row, l'.unbindings = l.unbindings ++ [row] ∧ ∀ n, TakesEffect sha256 l n i ↔ row.notebookId = n
  shows : Shows l S → (Shows l' (changed S ⟨l, i, o, l'⟩) ↔ Fresh l i)

theorem Step.bindingVersion {i : Input} (h : Step sha256 S l i o l') (heffect : ¬TakesEffect sha256 l n i) :
    l'.bindingVersion n = l.bindingVersion n := by
  unfold Ledger.bindingVersion
  rcases h.unbindings with ⟨hsame, -⟩ | ⟨row, hrow, hiff⟩
  · rw [hsame]
  · have hne : row.notebookId ≠ n := fun h => heffect ((hiff n).2 h)
    rw [hrow]
    simp [hne]

theorem Step.unchanged (h : Sound l) {i : Input}
    (heffect : ∀ n, ¬TakesEffect sha256 l n i) (hS : changed S ⟨l, i, o, l⟩ = S)
    (hfresh : Fresh l i) : Step sha256 S l i o l where
  sound := h
  notebooks := rfl
  unbindings := Or.inl ⟨rfl, heffect⟩
  shows hshows := by
    rw [hS]
    exact iff_of_true hshows hfresh

theorem step_bind (h : Sound l) (context : NotebookContext) (env : Env) (n kind recordId : String)
    (versionId : Option String) (now : Int) :
    Call.Post (bindVerified env context n kind recordId versionId now) l fun o l' =>
      Step sha256 S l (.bind context env n kind recordId versionId now) (o.map Reply.bound) l' := by
  refine (bind_spec env context n kind recordId versionId now l).mono ?_
  intro o l' hbinds
  have heffect : ∀ n', ¬TakesEffect sha256 l n' (.bind context env n kind recordId versionId now) :=
    fun _ h => h
  cases hbinds with
  | refused hrefused e =>
    refine .unchanged h heffect ?_ ?_
    · cases versionId <;> rfl
    · cases versionId with
      | none => trivial
      | some version => exact fun hadmitted => absurd hadmitted (hrefused .source)
  | present admitted hpresent =>
    rename_i k
    by_cases hk : k = .source
    · subst hk
      obtain ⟨version, rfl⟩ := Option.ne_none_iff_exists'.1 (admitted.version.1 rfl)
      exact ⟨h, rfl, Or.inl ⟨rfl, heffect⟩, fun hshows => shows_present h hshows admitted hpresent⟩
    · obtain ⟨hS, hfresh⟩ := changed_other context admitted hk
      exact .unchanged h heffect hS hfresh
  | added admitted hnew =>
    rename_i k
    have hsound : Sound { l with bindings := l.bindings ++
        [⟨n, k, recordId, versionId, context.actorId, now⟩] } :=
      h.bind admitted.notebook (fun hk => admitted.version.1 hk) hnew
    refine ⟨⟨hsound.notebooks, hsound.keyed, hsound.versioned, hsound.unbound, hsound.keys⟩, rfl,
      Or.inl ⟨rfl, heffect⟩, fun hshows => ?_⟩
    by_cases hk : k = .source
    · subst hk
      obtain ⟨version, rfl⟩ := Option.ne_none_iff_exists'.1 (admitted.version.1 rfl)
      exact And.elim iff_of_true (shows_added h hshows admitted hnew rfl rfl rfl)
    · obtain ⟨hS, hfresh⟩ := changed_other (S := S) context admitted hk
      refine iff_of_true ?_ hfresh
      rw [Except.map, hS]
      intro n' hn' p
      rw [hshows n' hn' p]
      refine Iff.trans ?_ (bound_bind (l := l)
        ⟨n, k, recordId, versionId, context.actorId, now⟩).symm
      exact (or_iff_left fun hrow => hk hrow.1.2.1).symm

theorem step_unbind (h : Sound l) (context : NotebookContext) (env : Env) (u : Unbind) :
    Call.Post (unbindSource sha256 env context u) l fun o l' =>
      Step sha256 S l (.unbind context env u)
        (o.map fun result => .unbound result.1 result.2) l' := by
  refine (unbind_spec sha256 env context u l).mono ?_
  intro o l' hunbinds
  cases hunbinds with
  | refused hrefused e =>
    exact .unchanged h (fun _ heffect => hrefused heffect.2) rfl trivial
  | replayed hfound =>
    rename_i row
    refine ⟨h, rfl, Or.inl ⟨rfl, fun _ heffect => ?_⟩, fun hshows => ?_⟩
    · rw [heffect.2.first] at hfound
      cases hfound
    · -- the source version that the key names is already unbound
      refine iff_of_true (fun n hn p => ?_) trivial
      have hgone := h.keys row (List.mem_of_find?_eq_some hfound)
      rw [Except.map, changed_unbind]
      split
      · next heq =>
        rw [Finset.mem_erase, hshows n hn p, and_iff_right_of_imp]
        rintro hbound rfl
        subst heq
        exact hbound.2 hgone
      · exact hshows n hn p
  | removed admitted =>
    refine ⟨h.unbind admitted.bound, rfl, Or.inr ⟨_, rfl, fun n => ?_⟩, fun hshows => ?_⟩
    · exact and_iff_left admitted
    · refine iff_of_true (fun n hn p => ?_) trivial
      rw [bound_unbind, Except.map, changed_unbind]
      split
      · next heq =>
        rw [Finset.mem_erase, hshows n hn p, and_comm]
        refine and_congr_right fun _ => not_congr ?_
        rw [Prod.ext_iff]
        exact ⟨fun hp => ⟨heq, hp.1.symm, hp.2.symm⟩, fun hp => ⟨hp.2.1.symm, hp.2.2.symm⟩⟩
      · next hne =>
        rw [hshows n hn p, and_iff_left]
        exact fun hp => hne hp.1

end

variable (sha256 notebooks) in
theorem step_next (S : String → Finset (String × String)) (h : Sound l) (i : Input) :
    Step sha256 S l i ((repository sha256 notebooks).answer l i)
      ((repository sha256 notebooks).next l i) := by
  cases i with
  | bind context env n kind recordId versionId now =>
    exact Call.post_map (step_bind h context env n kind recordId versionId now)
  | unbind context env u => exact Call.post_map (step_unbind h context env u)
  | readSelectedContext env n =>
    have hnext : (repository sha256 notebooks).next l (.readSelectedContext env n) = l := by
      change Call.Post (execute sha256 (.readSelectedContext env n)) l fun _ l' => l' = l
      refine Call.post_map (post_requireNotebook (fun _ _ => rfl) fun _ => Call.post_get ?_)
      exact Call.post_pure rfl
    rw [hnext]
    exact .unchanged h (fun _ h => h) rfl trivial
  | get n =>
    have hnext : (repository sha256 notebooks).next l (.get n) = l := by
      change Call.Post (execute sha256 (.get n)) l fun _ l' => l' = l
      exact Call.post_map rfl
    rw [hnext]
    exact .unchanged h (fun _ h => h) rfl trivial

end DaonUser.Notebook
