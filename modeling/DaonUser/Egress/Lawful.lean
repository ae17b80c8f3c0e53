import DaonUser.Egress.Postgres
import DaonUser.Lib.Lists

/-!
# Egress policies: isolation and replays over any run

The keys of the tables and what the writes leave of the rows (`Consistent`), what a call does of them
(`Turn`), and the two stores over any run (`policies_lawful`).
-/

namespace DaonUser.Egress.Postgres

open Lib

/-! ## Rows -/

def BindingRow.kept (row : BindingRow) : BindingRow := { row with active := true, current := true }

def VersionRow.key (row : VersionRow) : String × String := (row.scope.tenantId, row.policyVersionId)

def BindingRow.key (row : BindingRow) : String × String := (row.scope.tenantId, row.bindingId)

@[simp] theorem kept_replaced (context : EgressPolicyContext) (bindingId : String) (row : BindingRow) :
    (replaced context bindingId row).kept = row.kept := by
  unfold replaced
  split
  · rfl
  · rfl

@[simp] theorem scope_replaced (context : EgressPolicyContext) (bindingId : String) (row : BindingRow) :
    (replaced context bindingId row).scope = row.scope := by
  have hscope : (replaced context bindingId row).kept.scope = row.kept.scope := by rw [kept_replaced]
  exact hscope

theorem current_replaced {context : EgressPolicyContext} {bindingId : String} {row : BindingRow}
    (h : (replaced context bindingId row).current = true) : replaced context bindingId row = row := by
  unfold replaced at h ⊢
  split
  · next hhit =>
    rw [if_pos hhit] at h
    cases h
  · rfl

theorem filter_map_of_keeps {α : Type} {p : α → Bool} {f : α → α} {xs : List α}
    (h : ∀ x ∈ xs, p (f x) = p x ∧ (p x = true → f x = x)) : (xs.map f).filter p = xs.filter p := by
  induction xs with
  | nil => rfl
  | cons x xs ih =>
    obtain ⟨hp, hf⟩ := h x List.mem_cons_self
    have hrest := ih fun y hy => h y (List.mem_cons_of_mem _ hy)
    by_cases hpx : p x = true
    · rw [List.map_cons, List.filter_cons_of_pos (hp.trans hpx), List.filter_cons_of_pos hpx, hrest,
        hf hpx]
    · rw [List.map_cons, List.filter_cons_of_neg (by rwa [hp]), List.filter_cons_of_neg hpx, hrest]

/-! ## Consistent tables -/

/-- A version of the binding's scope, with which the binding is joined. -/
def IsVersionOf (binding : BindingRow) (version : VersionRow) : Prop :=
  version.scope = binding.scope ∧ version.policyVersionId = binding.policyVersionId

/-- The keys hold, a binding has its version, and a record has its binding. -/
structure Consistent (s : Tables) : Prop where
  versions : (s.versions.map (·.key)).Nodup
  bindings : (s.bindings.map (·.key)).Nodup
  current : ((s.bindings.filter (·.current)).map (·.scope)).Nodup
  joined : ∀ binding ∈ s.bindings, ∃ version ∈ s.versions, IsVersionOf binding version
  records : ∀ record ∈ s.records, isKey record.key.idempotencyKey = true ∧
    ∃ binding ∈ s.bindings, binding.bindingId = record.bindingId ∧
      binding.policyVersionId = record.policyVersionId ∧ binding.scope = record.key.scope

theorem consistent_empty : Consistent empty where
  versions := List.nodup_nil
  bindings := List.nodup_nil
  current := List.nodup_nil
  joined := fun _ h => (nomatch h)
  records := fun _ h => (nomatch h)

variable {s s' : Tables} {call : Call} {context : EgressPolicyContext} {sha256 md5 : String → String}
  {binding : BindingRow} {version : VersionRow}

theorem joins_of_isVersionOf (h : IsVersionOf binding version) : joins binding version = true := by
  rw [joins, Bool.and_eq_true, decide_eq_true_eq, decide_eq_true_eq]
  exact ⟨congrArg Scope.tenantId h.1, h.2⟩

theorem key_eq_of_joins (h : joins binding version = true) :
    version.key = (binding.scope.tenantId, binding.policyVersionId) := by
  rw [joins, Bool.and_eq_true, decide_eq_true_eq, decide_eq_true_eq] at h
  exact Prod.ext h.1 h.2

theorem viewOf_eq {versions all : List VersionRow} (hkey : (all.map (·.key)).Nodup)
    (hsub : versions ⊆ all) (hversion : version ∈ versions) (h : IsVersionOf binding version) :
    viewOf versions binding = some (view version binding) := by
  have hjoins := joins_of_isVersionOf h
  rw [viewOf, find?_eq_some_of_unique hversion hjoins]
  · rfl
  · intro other hother hother'
    refine List.inj_on_of_nodup_map hkey (hsub hother) (hsub hversion) ?_
    rw [key_eq_of_joins hother', key_eq_of_joins hjoins]

theorem visible_scope (call : Call) : visible call.context call.scope = true := by
  cases hscope : call.scopeType with
  | organization => simp [Call.scope, EgressPolicyContext.scope, visible, hscope]
  | workspace => simp [Call.scope, EgressPolicyContext.scope, visible, hscope]

theorem mem_rows (hs : Consistent s) {row : EgressPolicyBindingView} :
    row ∈ rows context s ↔ ∃ binding ∈ s.bindings, ∃ version ∈ s.versions,
      visible context binding.scope = true ∧ IsVersionOf binding version ∧
        row = view version binding := by
  rw [rows, List.mem_filterMap]
  constructor
  · rintro ⟨binding, hbinding, hrow⟩
    obtain ⟨hmem, hvisible⟩ := List.mem_filter.1 hbinding
    obtain ⟨version, hversion, hof⟩ := hs.joined binding hmem
    have hseen : version ∈ s.versions.filter (visible context ·.scope) :=
      List.mem_filter.2 ⟨hversion, by rw [hof.1]; exact hvisible⟩
    rw [viewOf_eq hs.versions List.filter_sublist.subset hseen hof] at hrow
    exact ⟨binding, hmem, version, hversion, hvisible, hof, (Option.some.inj hrow).symm⟩
  · rintro ⟨binding, hmem, version, hversion, hvisible, hof, rfl⟩
    have hseen : version ∈ s.versions.filter (visible context ·.scope) :=
      List.mem_filter.2 ⟨hversion, by rw [hof.1]; exact hvisible⟩
    exact ⟨binding, List.mem_filter.2 ⟨hmem, hvisible⟩,
      viewOf_eq hs.versions List.filter_sublist.subset hseen hof⟩

theorem eq_of_key (hs : Consistent s) {b b' : BindingRow} (hb : b ∈ s.bindings) (hb' : b' ∈ s.bindings)
    (htenant : b.scope.tenantId = b'.scope.tenantId) (hid : b.bindingId = b'.bindingId) : b = b' :=
  List.inj_on_of_nodup_map hs.bindings hb hb' (Prod.ext htenant hid)

theorem version_eq (hs : Consistent s) {v v' : VersionRow} (hv : v ∈ s.versions) (hv' : v' ∈ s.versions)
    {b : BindingRow} (h : IsVersionOf b v) (h' : IsVersionOf b v') : v = v' := by
  refine List.inj_on_of_nodup_map hs.versions hv hv' ?_
  rw [key_eq_of_joins (joins_of_isVersionOf h), key_eq_of_joins (joins_of_isVersionOf h')]

theorem eq_of_current (hs : Consistent s) {b b' : BindingRow} (hb : b ∈ s.bindings)
    (hb' : b' ∈ s.bindings) (hscope : b.scope = b'.scope) (hcurrent : b.current = true)
    (hcurrent' : b'.current = true) : b = b' :=
  List.inj_on_of_nodup_map hs.current (List.mem_filter.2 ⟨hb, hcurrent⟩)
    (List.mem_filter.2 ⟨hb', hcurrent'⟩) hscope

theorem selectCurrent_spec (hs : Consistent s) {old : EgressPolicyBindingView}
    (h : selectCurrent call.context call.scope s = some old) :
    ∃ binding ∈ s.bindings, ∃ version ∈ s.versions, IsVersionOf binding version ∧
      binding.scope = call.scope ∧ binding.current = true ∧ old = view version binding := by
  have hmeets := List.find?_some h
  rw [Bool.and_eq_true, decide_eq_true_eq] at hmeets
  obtain ⟨binding, hbinding, version, hversion, -, hof, rfl⟩ :=
    (mem_rows hs).1 (List.mem_of_find?_eq_some h)
  exact ⟨binding, hbinding, version, hversion, hof, hmeets.1, hmeets.2, rfl⟩

theorem selectIds_spec (hs : Consistent s) {record : RecordRow} (hrecord : record ∈ s.records)
    (hkey : record.key = recordKey call) : ∃ binding ∈ s.bindings, ∃ version ∈ s.versions,
      IsVersionOf binding version ∧ binding.scope = call.scope ∧
      binding.bindingId = record.bindingId ∧ selectIds call.context record s = some (view version binding) := by
  obtain ⟨-, binding, hbinding, hid, hpolicy, hscope⟩ := hs.records record hrecord
  obtain ⟨version, hversion, hof⟩ := hs.joined binding hbinding
  have hcall : binding.scope = call.scope := by
    rw [hscope, hkey]
    rfl
  have hvisible : visible call.context binding.scope = true := by
    rw [hcall]
    exact visible_scope call
  refine ⟨binding, hbinding, version, hversion, hof, hcall, hid, ?_⟩
  refine find?_eq_some_of_unique ((mem_rows hs).2 ⟨binding, hbinding, version, hversion, hvisible, hof,
    rfl⟩) ?_ ?_
  · rw [Bool.and_eq_true, decide_eq_true_eq, decide_eq_true_eq]
    exact ⟨hof.2.trans hpolicy, hid⟩
  · intro row hrow hmeets
    rw [Bool.and_eq_true, decide_eq_true_eq, decide_eq_true_eq] at hmeets
    obtain ⟨other, hother, version', hversion', hvisible', hof', rfl⟩ := (mem_rows hs).1 hrow
    rw [visible, Bool.and_eq_true, decide_eq_true_eq] at hvisible hvisible'
    obtain rfl := eq_of_key hs hother hbinding (hvisible'.1.trans hvisible.1.symm)
      (hmeets.2.trans hid.symm)
    rw [version_eq hs hversion' hversion hof' hof]

theorem currents_eq (hs : Consistent s) (hbinding : binding ∈ s.bindings)
    (hversion : version ∈ s.versions) (hof : IsVersionOf binding version)
    (hcurrent : binding.current = true) : store.currents s binding.scope = [view version binding] := by
  change (s.bindings.filter fun row => row.scope = binding.scope && row.current).filterMap _ = _
  have hnodup : s.bindings.Nodup := List.Nodup.of_map _ hs.bindings
  rw [filter_eq_singleton hnodup hbinding]
  · rw [List.filterMap_cons_some (viewOf_eq hs.versions (List.Subset.refl _) hversion hof)]
    rfl
  · rw [Bool.and_eq_true, decide_eq_true_eq]
    exact ⟨rfl, hcurrent⟩
  · intro other hother hmeets
    rw [Bool.and_eq_true, decide_eq_true_eq] at hmeets
    exact eq_of_current hs hother hbinding hmeets.1 hmeets.2 hcurrent

theorem length_currents_le (hs : Consistent s) (scope : Scope) :
    (store.currents s scope).length ≤ 1 := by
  rcases hcurrents : store.currents s scope with _ | ⟨row, rest⟩
  · exact Nat.zero_le 1
  · have hrow : row ∈ store.currents s scope := by
      rw [hcurrents]
      exact List.mem_cons_self
    obtain ⟨binding, hbinding, -⟩ := List.mem_filterMap.1 hrow
    obtain ⟨hmem, hmeets⟩ := List.mem_filter.1 hbinding
    rw [Bool.and_eq_true, decide_eq_true_eq] at hmeets
    obtain ⟨version, hversion, hof⟩ := hs.joined binding hmem
    have hone := currents_eq hs hmem hversion hof hmeets.2
    rw [hmeets.1, hcurrents] at hone
    rw [hone]
    exact Nat.le_refl 1

theorem nodup_map_concat {α β : Type} {f : α → β} {xs : List α} {x : α} (h : (xs.map f).Nodup)
    (hx : ∀ y ∈ xs, f y ≠ f x) : ((xs ++ [x]).map f).Nodup := by
  rw [List.map_append, List.map_singleton, List.nodup_append]
  refine ⟨h, List.nodup_singleton _, fun a ha b hb => ?_⟩
  obtain ⟨y, hy, rfl⟩ := List.mem_map.1 ha
  rw [List.mem_singleton.1 hb]
  exact hx y hy

theorem filter_map_sublist {α : Type} {p : α → Bool} {f : α → α} (h : ∀ x, p (f x) = true → f x = x)
    (xs : List α) : ((xs.map f).filter p).Sublist (xs.filter p) := by
  induction xs with
  | nil => exact List.Sublist.slnil
  | cons x xs ih =>
    rw [List.map_cons]
    by_cases hfx : p (f x) = true
    · have hx := h x hfx
      rw [List.filter_cons_of_pos hfx, hx, List.filter_cons_of_pos (hx ▸ hfx)]
      exact ih.cons_cons x
    · rw [List.filter_cons_of_neg hfx]
      exact ih.trans ((List.sublist_cons_self x xs).filter p)

theorem Consistent.add (hs : Consistent s) {versions : List VersionRow} {f : BindingRow → BindingRow}
    (hversions : (versions.map (·.key)).Nodup) (hsub : s.versions ⊆ versions)
    (hf : ∀ row, (f row).kept = row.kept) (hcurrent : ∀ row, (f row).current = true → f row = row)
    (hversion : ∃ version ∈ versions, IsVersionOf binding version)
    (hadmits : AdmitsBinding (s.bindings.map f) binding) {records : List RecordRow}
    (hrecords : ∀ record ∈ records, isKey record.key.idempotencyKey = true ∧
      ∃ row ∈ s.bindings.map f ++ [binding], row.bindingId = record.bindingId ∧
        row.policyVersionId = record.policyVersionId ∧ row.scope = record.key.scope) :
    Consistent ⟨versions, s.bindings.map f ++ [binding], records⟩ where
  versions := hversions
  bindings := by
    refine nodup_map_concat ?_ fun other hother hsame => ?_
    · have hkeys : (s.bindings.map f).map BindingRow.key = s.bindings.map BindingRow.key := by
        rw [List.map_map]
        refine List.map_congr_left fun row _ => ?_
        have hkey : (f row).kept.key = row.kept.key := by rw [hf]
        exact hkey
      rw [hkeys]
      exact hs.bindings
    · exact (hadmits other hother).1 (Prod.mk.inj hsame)
  current := by
    rw [List.filter_append, List.map_append, List.nodup_append]
    refine ⟨hs.current.sublist ((filter_map_sublist hcurrent _).map _),
      List.Nodup.map_on ?_ ((List.nodup_singleton _).filter _), fun scope hscope other hother => ?_⟩
    · intro row hrow row' hrow' _
      rw [List.mem_singleton.1 (List.mem_filter.1 hrow).1, List.mem_singleton.1 (List.mem_filter.1 hrow').1]
    · obtain ⟨row, hrow, rfl⟩ := List.mem_map.1 hscope
      obtain ⟨row', hrow', rfl⟩ := List.mem_map.1 hother
      obtain ⟨hmem, hrowCurrent⟩ := List.mem_filter.1 hrow
      rw [List.mem_singleton.1 (List.mem_filter.1 hrow').1]
      exact fun hsame => (hadmits row hmem).2.2 ⟨hsame, hrowCurrent⟩
  joined := fun row hrow => by
    rcases List.mem_append.1 hrow with hold | hnew
    · obtain ⟨before, hbefore, rfl⟩ := List.mem_map.1 hold
      obtain ⟨version, hmem, hof⟩ := hs.joined before hbefore
      have hscope : (f before).kept.scope = before.kept.scope := by rw [hf]
      have hpolicy : (f before).kept.policyVersionId = before.kept.policyVersionId := by rw [hf]
      exact ⟨version, hsub hmem, hof.1.trans hscope.symm, hof.2.trans hpolicy.symm⟩
    · rw [List.mem_singleton.1 hnew]
      exact hversion
  records := hrecords

theorem Consistent.record_add (hs : Consistent s) {f : BindingRow → BindingRow}
    (hf : ∀ row, (f row).kept = row.kept) (binding : BindingRow) {record : RecordRow}
    (hrecord : record ∈ s.records) : isKey record.key.idempotencyKey = true ∧
      ∃ row ∈ s.bindings.map f ++ [binding], row.bindingId = record.bindingId ∧
        row.policyVersionId = record.policyVersionId ∧ row.scope = record.key.scope := by
  obtain ⟨hkey, row, hrow, hid, hpolicy, hscope⟩ := hs.records record hrecord
  have hid' : (f row).kept.bindingId = row.kept.bindingId := by rw [hf]
  have hpolicy' : (f row).kept.policyVersionId = row.kept.policyVersionId := by rw [hf]
  have hscope' : (f row).kept.scope = row.kept.scope := by rw [hf]
  exact ⟨hkey, f row, List.mem_append_left _ (List.mem_map_of_mem hrow), hid'.trans hid,
    hpolicy'.trans hpolicy, hscope'.trans hscope⟩

theorem nodup_versions_concat (hs : Consistent s) (hadmits : AdmitsVersion s.versions version) :
    ((s.versions ++ [version]).map (·.key)).Nodup :=
  nodup_map_concat hs.versions fun other hother hsame => (hadmits other hother).1 (Prod.mk.inj hsame)

theorem Consistent.activated (hs : Consistent s) (hkey : isKey call.idempotencyKey = true)
    {current : EgressPolicyBindingView} (hadmits : Admits sha256 call current s) :
    Consistent (activated sha256 call current s) := by
  refine hs.add (nodup_versions_concat hs hadmits.1) (List.subset_append_left _ _)
    (kept_replaced _ _) (fun _ => current_replaced) ?_ hadmits.2 ?_
  · exact ⟨_, List.mem_append_right _ (List.mem_singleton_self _), rfl, rfl⟩
  · intro record hrecord
    rcases List.mem_append.1 hrecord with hold | hnew
    · exact hs.record_add (kept_replaced _ _) _ hold
    · rw [List.mem_singleton.1 hnew]
      exact ⟨hkey, _, List.mem_append_right _ (List.mem_singleton_self _), rfl, rfl, rfl⟩

theorem Consistent.seed (hs : Consistent s) (md5 : String → String) (scope : Scope)
    (payload : EgressPolicyPayload) : Consistent (seed md5 scope payload s) := by
  have hversions : ((seededVersions md5 scope payload s.versions).map (·.key)).Nodup ∧
      s.versions ⊆ seededVersions md5 scope payload s.versions := by
    unfold seededVersions
    split
    · next hadmits => exact ⟨nodup_versions_concat hs hadmits, List.subset_append_left _ _⟩
    · exact ⟨hs.versions, List.Subset.refl _⟩
  unfold Postgres.seed
  dsimp only
  split
  · exact hs
  · split
    · next hguard =>
      split
      · next hadmits =>
        have hversion : ∃ version ∈ seededVersions md5 scope payload s.versions,
            IsVersionOf (seedBinding md5 scope) version := hguard
        have hadd : Consistent ⟨_, s.bindings.map (fun row => row) ++ [seedBinding md5 scope],
            s.records⟩ :=
          hs.add hversions.1 hversions.2 (fun _ => rfl) (fun _ _ => rfl) hversion
            (by rwa [List.map_id']) (fun record hrecord => hs.record_add (fun _ => rfl) _ hrecord)
        rwa [List.map_id'] at hadd
      · exact ⟨hversions.1, hs.bindings, hs.current, fun row hrow => by
          obtain ⟨version, hmem, hof⟩ := hs.joined row hrow
          exact ⟨version, hversions.2 hmem, hof⟩, hs.records⟩
    · exact hs

/-! ## What a call does -/

inductive Turn (sha256 : String → String) (call : Call) (s : Tables) :
    Except EgressPolicyError EgressPolicyBindingView → Tables → Prop
  | invalid (key : isKey call.idempotencyKey = false) :
      Turn sha256 call s (.error .idempotencyKeyInvalid) s
  | reused (record : RecordRow) (found : s.records.find? (·.key = recordKey call) = some record)
      (other : record.fingerprint ≠ call.fingerprint sha256) :
      Turn sha256 call s (.error .idempotencyKeyReused) s
  | replayed (record : RecordRow) (found : s.records.find? (·.key = recordKey call) = some record)
      (same : record.fingerprint = call.fingerprint sha256) (row : EgressPolicyBindingView)
      (selected : selectIds call.context record s = some row) : Turn sha256 call s (.ok row) s
  | lost (record : RecordRow) (found : s.records.find? (·.key = recordKey call) = some record)
      (selected : selectIds call.context record s = none) :
      Turn sha256 call s (.error .unavailable) s
  | refused (e : EgressPolicyError) (fresh : s.records.find? (·.key = recordKey call) = none) :
      Turn sha256 call s (.error e) s
  | activated (key : isKey call.idempotencyKey = true)
      (fresh : s.records.find? (·.key = recordKey call) = none) (old : EgressPolicyBindingView)
      (current : selectCurrent call.context call.scope s = some old)
      (admits : Admits sha256 call old s) :
      Turn sha256 call s (.ok (view (nextVersion sha256 call old) (nextBinding sha256 call old)))
        (activated sha256 call old s)

theorem turn (sha256 : String → String) (call : Call) (aborts : Bool) (s : Tables) :
    Turn sha256 call s (createAndActivate sha256 call aborts s).1
      (createAndActivate sha256 call aborts s).2 := by
  unfold createAndActivate
  split
  · next hkey => exact .invalid hkey
  next hkey =>
  rw [Bool.not_eq_false] at hkey
  split
  · next record hfound =>
    split
    · next hother => exact .reused record hfound hother
    · next hsame =>
      split
      · next row hselected => exact .replayed record hfound (not_not.1 hsame) row hselected
      · next hselected => exact .lost record hfound hselected
  · next hfresh =>
    split
    · exact .refused _ hfresh
    · next old hcurrent =>
      split
      · exact .refused _ hfresh
      · split
        · next hadmits => exact .activated hkey hfresh old hcurrent hadmits.1
        · exact .refused _ hfresh

theorem Turn.consistent {result : Except EgressPolicyError EgressPolicyBindingView}
    (h : Turn sha256 call s result s') (hs : Consistent s) : Consistent s' := by
  cases h with
  | invalid => exact hs
  | reused => exact hs
  | replayed => exact hs
  | lost => exact hs
  | refused => exact hs
  | activated hkey _ old _ hadmits => exact hs.activated hkey hadmits

theorem recorded_store (s : Tables) (call : Call) : store.recorded s call =
    (s.records.find? (·.key = recordKey call)).map (·.fingerprint) := rfl

theorem mem_of_found {record : RecordRow} (h : s.records.find? (·.key = recordKey call) = some record) :
    record ∈ s.records ∧ record.key = recordKey call :=
  ⟨List.mem_of_find?_eq_some h, by simpa using List.find?_some h⟩

theorem recorded_of_invalid (hs : Consistent s) (hkey : isKey call.idempotencyKey = false) :
    store.recorded s call = none := by
  rw [recorded_store]
  cases hfind : s.records.find? (·.key = recordKey call) with
  | none => rfl
  | some record =>
    obtain ⟨hmem, hsame⟩ := mem_of_found hfind
    have hvalid := (hs.records record hmem).1
    rw [hsame] at hvalid
    exact absurd (hvalid.symm.trans hkey) (by decide)

theorem lawful_of_error {e : EgressPolicyError} (hfresh : store.recorded s call = none) :
    LawfulCall store sha256 call s (.error e) s where
  accepted := fun _ heq => (nomatch heq)
  replay := fun hsame => by
    rw [hfresh] at hsame
    cases hsame
  reused := fun _ _ _ => ⟨e, rfl⟩
  refused := fun _ _ => rfl
  isolated := ⟨fun _ heq => (nomatch heq), fun _ _ => rfl⟩

theorem currents_activated (hs : Consistent s) (hkey : isKey call.idempotencyKey = true)
    {old : EgressPolicyBindingView} (hadmits : Admits sha256 call old s) :
    store.currents (activated sha256 call old s) call.scope =
      [view (nextVersion sha256 call old) (nextBinding sha256 call old)] :=
  currents_eq (hs.activated hkey hadmits) (List.mem_append_right _ (List.mem_singleton_self _))
    (List.mem_append_right _ (List.mem_singleton_self _)) ⟨rfl, rfl⟩ rfl

theorem currents_of_ne (hs : Consistent s) {old : EgressPolicyBindingView}
    (hcurrent : selectCurrent call.context call.scope s = some old)
    (hadmits : Admits sha256 call old s) {scope : Scope} (hne : scope ≠ call.scope) :
    store.currents (activated sha256 call old s) scope = store.currents s scope := by
  obtain ⟨binding, hbinding, version, -, -, hscope, -, rfl⟩ := selectCurrent_spec hs hcurrent
  have hrows : (activated sha256 call (view version binding) s).bindings.filter
      (fun row => row.scope = scope && row.current) =
      s.bindings.filter fun row => row.scope = scope && row.current := by
    have hnew : [nextBinding sha256 call (view version binding)].filter
        (fun row => row.scope = scope && row.current) = [] := by
      refine List.filter_eq_nil_iff.2 fun row hrow hmeets => ?_
      rw [List.mem_singleton.1 hrow, Bool.and_eq_true, decide_eq_true_eq] at hmeets
      exact hne hmeets.1.symm
    rw [activated, List.filter_append, hnew, List.append_nil]
    · refine filter_map_of_keeps fun row hrow => ?_
      by_cases hhit : replaced call.context (view version binding).bindingId row = row
      · rw [hhit]
        exact ⟨rfl, fun _ => rfl⟩
      · have hrowScope : row.scope = call.scope := by
          unfold replaced at hhit
          split at hhit
          · next hmeets =>
            simp only [Bool.and_eq_true, decide_eq_true_eq] at hmeets
            obtain ⟨⟨⟨hvisible, hid⟩, -⟩, -⟩ := hmeets
            have hvisible' := visible_scope call
            rw [visible, Bool.and_eq_true, decide_eq_true_eq] at hvisible hvisible'
            rw [← hscope]
            refine congrArg BindingRow.scope (eq_of_key hs hrow hbinding ?_ hid)
            rw [hvisible.1, hscope, hvisible'.1]
          · exact absurd rfl hhit
        have hno : (decide (row.scope = scope)) = false := decide_eq_false (hrowScope ▸ hne.symm)
        rw [scope_replaced, hno, Bool.false_and, Bool.false_and]
        exact ⟨rfl, fun hfalse => absurd hfalse (by decide)⟩
  change List.filterMap _ ((activated sha256 call (view version binding) s).bindings.filter
    (fun row => row.scope = scope && row.current)) = _
  rw [hrows]
  refine List.filterMap_congr fun row hrow => ?_
  obtain ⟨other, hother, hof⟩ := hs.joined row (List.mem_filter.1 hrow).1
  rw [viewOf_eq hs.versions (List.Subset.refl _) hother hof]
  exact viewOf_eq (nodup_versions_concat hs hadmits.1) (List.Subset.refl _)
    (List.mem_append_left _ hother) hof

theorem Turn.lawful {result : Except EgressPolicyError EgressPolicyBindingView}
    (h : Turn sha256 call s result s') (hs : Consistent s) :
    LawfulCall store sha256 call s result s' := by
  cases h with
  | invalid hkey => exact lawful_of_error (recorded_of_invalid hs hkey)
  | reused record hfound hother =>
    have hrecorded : store.recorded s call = some record.fingerprint := by
      rw [recorded_store, hfound]
      rfl
    refine ⟨fun _ heq => (nomatch heq), fun hsame => ?_, fun _ _ _ => ⟨_, rfl⟩, fun _ _ => rfl,
      ⟨fun _ heq => (nomatch heq), fun _ _ => rfl⟩⟩
    exact absurd (Option.some.inj (hrecorded.symm.trans hsame)) hother
  | replayed record hfound hsame row hselected =>
    have hrecorded : store.recorded s call = some (call.fingerprint sha256) := by
      rw [recorded_store, hfound, ← hsame]
      rfl
    refine ⟨fun _ _ hnone => ?_, fun _ => ⟨rfl, row, rfl⟩, fun fingerprint hmem hne => ?_,
      fun _ _ => rfl, ⟨fun other heq => ?_, fun _ _ => rfl⟩⟩
    · rw [hrecorded] at hnone
      cases hnone
    · rw [hrecorded] at hmem
      exact absurd (Option.some.inj hmem).symm hne
    · obtain ⟨hmem, hkey⟩ := mem_of_found hfound
      obtain ⟨binding, -, version, -, -, hscope, -, hrow⟩ := selectIds_spec hs hmem hkey
      rw [hselected] at hrow
      rw [← Except.ok.inj heq, Option.some.inj hrow]
      exact hscope
  | lost record hfound hselected =>
    obtain ⟨hmem, hkey⟩ := mem_of_found hfound
    obtain ⟨binding, -, version, -, -, -, -, hrow⟩ := selectIds_spec hs hmem hkey
    rw [hselected] at hrow
    cases hrow
  | refused e hfresh =>
    refine lawful_of_error ?_
    rw [recorded_store, hfresh]
    rfl
  | activated hkey hfresh old hcurrent hadmits =>
    have hrecorded : store.recorded s call = none := by
      rw [recorded_store, hfresh]
      rfl
    refine ⟨fun row heq _ => ?_, fun hsame => ?_, fun fingerprint hmem => ?_, fun _ heq => (nomatch heq),
      ⟨fun row heq => ?_, fun scope hne => currents_of_ne hs hcurrent hadmits hne⟩⟩
    · obtain ⟨binding, hbinding, version, hversion, hof, hscope, hnow, hold⟩ :=
        selectCurrent_spec hs hcurrent
      refine ⟨old, ?_, ?_, ?_⟩
      · rw [← hscope, hold]
        exact currents_eq hs hbinding hversion hof hnow
      · rw [currents_activated hs hkey hadmits, Except.ok.inj heq]
      · rw [← Except.ok.inj heq]
        rfl
    · rw [hrecorded] at hsame
      cases hsame
    · rw [hrecorded] at hmem
      cases hmem
    · rw [← Except.ok.inj heq]
      rfl

/-! ## Runs -/

/-- What no step takes away. -/
structure Grows (s s' : Tables) : Prop where
  versions : s.versions ⊆ s'.versions
  bindings : ∀ binding ∈ s.bindings, ∃ binding' ∈ s'.bindings, binding'.kept = binding.kept
  records : ∀ key record, s.records.find? (·.key = key) = some record →
    s'.records.find? (·.key = key) = some record

theorem Grows.refl (s : Tables) : Grows s s :=
  ⟨List.Subset.refl _, fun binding hbinding => ⟨binding, hbinding, rfl⟩, fun _ _ hfound => hfound⟩

theorem Turn.grows {result : Except EgressPolicyError EgressPolicyBindingView}
    (h : Turn sha256 call s result s') : Grows s s' := by
  cases h with
  | invalid => exact .refl s
  | reused => exact .refl s
  | replayed => exact .refl s
  | lost => exact .refl s
  | refused => exact .refl s
  | activated _ _ old =>
    refine ⟨List.subset_append_left _ _, fun binding hbinding => ?_, fun key record hfound => ?_⟩
    · exact ⟨_, List.mem_append_left _ (List.mem_map_of_mem hbinding), kept_replaced _ _ binding⟩
    · rw [Postgres.activated, List.find?_append, hfound]
      rfl

theorem grows_seed (md5 : String → String) (scope : Scope) (payload : EgressPolicyPayload)
    (s : Tables) : Grows s (seed md5 scope payload s) := by
  have hversions : s.versions ⊆ seededVersions md5 scope payload s.versions := by
    unfold seededVersions
    split
    · exact List.subset_append_left _ _
    · exact List.Subset.refl _
  unfold seed
  dsimp only
  split
  · exact .refl s
  · split
    · refine ⟨hversions, fun binding hbinding => ⟨binding, ?_, rfl⟩, fun _ _ hfound => hfound⟩
      split
      · exact List.mem_append_left _ hbinding
      · exact hbinding
    · exact .refl s

theorem grows_next (s : Tables) (step : Step) : Grows s ((machine sha256 md5).next s step) := by
  cases step with
  | seed context scopeType payload => exact grows_seed md5 _ payload s
  | call call aborts => exact (turn sha256 call aborts s).grows

theorem Consistent.next (hs : Consistent s) (step : Step) :
    Consistent ((machine sha256 md5).next s step) := by
  cases step with
  | seed context scopeType payload => exact hs.seed md5 _ payload
  | call call aborts => exact (turn sha256 call aborts s).consistent hs

theorem turn_of_isCall {result : Except EgressPolicyError EgressPolicyBindingView} {step : Step}
    (h : IsCall ((machine sha256 md5).event s step) call result) :
    Turn sha256 call s result ((machine sha256 md5).next s step) := by
  obtain ⟨⟨aborts, rfl⟩, houtput⟩ := h
  rw [← Option.some.inj houtput]
  exact turn sha256 call aborts s

theorem currents_ne_nil (hs : Consistent s) (step : Step) {scope : Scope}
    (h : store.currents s scope ≠ []) : store.currents ((machine sha256 md5).next s step) scope ≠ [] := by
  obtain ⟨row, hrow⟩ := List.exists_mem_of_ne_nil _ h
  obtain ⟨binding, hbinding, -⟩ := List.mem_filterMap.1 hrow
  obtain ⟨hmem, hmeets⟩ := List.mem_filter.1 hbinding
  rw [Bool.and_eq_true, decide_eq_true_eq] at hmeets
  obtain ⟨hscope, hcurrent⟩ := hmeets
  have hnext : Consistent ((machine sha256 md5).next s step) := hs.next step
  have hsome : ∀ other ∈ ((machine sha256 md5).next s step).bindings, other.scope = scope →
      other.current = true → store.currents ((machine sha256 md5).next s step) scope ≠ [] := by
    intro other hother hsame hnow
    obtain ⟨version, hversion, hof⟩ := hnext.joined other hother
    rw [← hsame, currents_eq hnext hother hversion hof hnow]
    exact List.cons_ne_nil _ _
  cases step with
  | seed context scopeType payload =>
    refine hsome binding ?_ hscope hcurrent
    change binding ∈ (seed md5 (context.scope scopeType) payload s).bindings
    unfold seed
    dsimp only
    split
    · exact hmem
    · split
      · dsimp only
        split
        · exact List.mem_append_left _ hmem
        · exact hmem
      · exact hmem
  | call call aborts =>
    have hturn := turn sha256 call aborts s
    change Turn sha256 call s _ ((machine sha256 md5).next s (.call call aborts)) at hturn
    generalize (machine sha256 md5).next s (.call call aborts) = s' at hturn hsome hnext
    generalize (createAndActivate sha256 call aborts s).1 = result at hturn
    cases hturn with
    | invalid => exact h
    | reused => exact h
    | replayed => exact h
    | lost => exact h
    | refused => exact h
    | activated hkey hfresh old hold hadmits =>
      by_cases hsame : scope = call.scope
      · rw [hsame, currents_activated hs hkey hadmits]
        exact List.cons_ne_nil _ _
      · rw [currents_of_ne hs hold hadmits hsame]
        exact h

/-- The binding that a first call has made is recorded, with its version. -/
def Leaves (e : Event Tables Step Answer) (s : Tables) : Prop :=
  ∀ call row, IsCall e call (.ok row) → store.recorded e.pre call = none →
    ∃ record binding version, s.records.find? (·.key = recordKey call) = some record ∧
      binding ∈ s.bindings ∧ version ∈ s.versions ∧ IsVersionOf binding version ∧
      binding.bindingId = record.bindingId ∧ binding.scope = call.scope ∧
      row.Same (view version binding)

theorem leaves_event (s : Tables) (step : Step) :
    Leaves ((machine sha256 md5).event s step) ((machine sha256 md5).next s step) := by
  intro call row hcall hfresh
  generalize hresult : Except.ok row = result at hcall
  have hturn := turn_of_isCall hcall
  generalize (machine sha256 md5).next s step = s' at hturn ⊢
  have hnone : store.recorded s call = none := hfresh
  cases hturn with
  | invalid => cases hresult
  | reused => cases hresult
  | replayed record hfound =>
    rw [recorded_store, hfound] at hnone
    cases hnone
  | lost => cases hresult
  | refused => cases hresult
  | activated hkey hunfound old hold hadmits =>
    obtain rfl := Except.ok.inj hresult
    refine ⟨recordOf sha256 call old, nextBinding sha256 call old, nextVersion sha256 call old, ?_,
      List.mem_append_right _ (List.mem_singleton_self _),
      List.mem_append_right _ (List.mem_singleton_self _), ⟨rfl, rfl⟩, rfl, rfl, rfl⟩
    rw [activated, List.find?_append, hunfound, Option.none_or]
    exact List.find?_cons_of_pos (decide_eq_true rfl)

theorem Leaves.next {e : Event Tables Step Answer} (h : Leaves e s) (step : Step) :
    Leaves e ((machine sha256 md5).next s step) := by
  intro call row hcall hfresh
  obtain ⟨record, binding, version, hfound, hbinding, hversion, hof, hid, hscope, hsame⟩ :=
    h call row hcall hfresh
  have hgrows : Grows s ((machine sha256 md5).next s step) := grows_next s step
  obtain ⟨binding', hbinding', hkept⟩ := hgrows.bindings binding hbinding
  have hscope' : binding'.kept.scope = binding.kept.scope := by rw [hkept]
  have hid' : binding'.kept.bindingId = binding.kept.bindingId := by rw [hkept]
  have hpolicy' : binding'.kept.policyVersionId = binding.kept.policyVersionId := by rw [hkept]
  refine ⟨record, binding', version, hgrows.records _ _ hfound, hbinding', hgrows.versions hversion,
    ⟨hof.1.trans hscope'.symm, hof.2.trans hpolicy'.symm⟩, hid'.trans hid, hscope'.trans hscope, ?_⟩
  change _ = view version binding'.kept
  rw [hkept]
  exact hsame

theorem Leaves.same (hs : Consistent s) {e : Event Tables Step Answer} (h : Leaves e s) (step : Step)
    {call call' : Call} {row row' : EgressPolicyBindingView} (hcall : IsCall e call (.ok row))
    (hfresh : store.recorded e.pre call = none)
    (hcall' : IsCall ((machine sha256 md5).event s step) call' (.ok row'))
    (hkey : store.sameKey call call') : row.Same row' := by
  obtain ⟨record, binding, version, hfound, hbinding, hversion, hof, hid, hscope, hsame⟩ :=
    h call row hcall hfresh
  have hkeys : recordKey call = recordKey call' := hkey
  have hscopes : call.scope = call'.scope := congrArg RecordKey.scope hkeys
  rw [hkeys] at hfound
  generalize hresult : Except.ok row' = result at hcall'
  have hturn := turn_of_isCall hcall'
  generalize (machine sha256 md5).next s step = s' at hturn
  cases hturn with
  | invalid => cases hresult
  | reused => cases hresult
  | replayed record' hfound' _ selected hselected =>
    obtain rfl := Except.ok.inj hresult
    obtain rfl := Option.some.inj (hfound.symm.trans hfound')
    obtain ⟨hmem, hrecord⟩ := mem_of_found hfound
    obtain ⟨other, hother, version', hversion', hof', hscope', hid', hview⟩ :=
      selectIds_spec hs hmem hrecord
    obtain rfl := eq_of_key hs hother hbinding
      (congrArg Scope.tenantId (hscope'.trans (hscopes.symm.trans hscope.symm))) (hid'.trans hid.symm)
    rw [version_eq hs hversion' hversion hof' hof, hselected] at hview
    rw [Option.some.inj hview]
    exact hsame
  | lost => cases hresult
  | refused => cases hresult
  | activated _ hunfound =>
    rw [hfound] at hunfound
    cases hunfound

theorem consistent_of_reachable (h : (machine sha256 md5).Reachable s) : Consistent s :=
  h.induction consistent_empty fun _ step hs => hs.next step

theorem lawful (sha256 md5 : String → String) (steps : List Step) :
    Lawful store sha256 ((machine sha256 md5).events steps) where
  calls := fun e he call result hcall => by
    obtain ⟨s, step, hreachable, -, rfl⟩ := (machine sha256 md5).mem_events he
    exact (turn_of_isCall hcall).lawful (consistent_of_reachable hreachable)
  one := fun e he scope => by
    obtain ⟨s, step, hreachable, -, rfl⟩ := (machine sha256 md5).mem_events he
    have hs := consistent_of_reachable hreachable
    exact ⟨length_currents_le (hs.next step) scope, currents_ne_nil hs step⟩
  first := (machine sha256 md5).events_pairwise (I := Consistent) consistent_empty
    (fun s step hs => hs.next step) (fun s step _ => leaves_event s step)
    (fun e s step _ hleft => hleft.next step)
    (fun e s step hs hleft call call' row row' hcall hfresh hcall' hkey =>
      hleft.same hs step hcall hfresh hcall' hkey) steps

end DaonUser.Egress.Postgres

namespace DaonUser.Egress

open Lib

/-! ## Both stores -/

/-- Over any run of any calls: the PostgreSQL store does what it has to do, and the reference store does it
exactly where no request that another workspace has recorded is taken for a call. -/
theorem policies_lawful (sha256 md5 : String → String) (steps : List Step) :
    (Lawful Reference.store sha256 ((Reference.machine sha256).events steps) ↔
      ∀ e ∈ (Reference.machine sha256).events steps, ∀ call result, IsCall e call result →
        Reference.Clear sha256 e.pre call) ∧
    Lawful Postgres.store sha256 ((Postgres.machine sha256 md5).events steps) :=
  ⟨Reference.lawful_iff sha256 steps, Postgres.lawful sha256 md5 steps⟩

namespace Sample

def context (workspaceId : String) (h : isSafeId workspaceId = true) : EgressPolicyContext where
  tenantId := "t1"
  workspaceId := workspaceId
  actorId := "u1"
  traceId := "r1"
  authorizationPolicyVersion := "p1"
  valid := by
    intro id hid
    simp only [List.mem_cons, List.not_mem_nil, or_false] at hid
    rcases hid with rfl | rfl | rfl | rfl | rfl
    · decide
    · exact h
    · decide
    · decide
    · decide

def first : EgressPolicyContext := context "w1" (by decide)

def second : EgressPolicyContext := context "w2" (by decide)

def call (context : EgressPolicyContext) : Call where
  context := context
  scopeType := .workspace
  payload := .denyExternal
  expectedEtag := (Reference.stored (context.scope .workspace) 1 .denyExternal).etag fun s => s
  idempotencyKey := "k1"

/-- Two workspaces have their first bindings, and the first one makes the next version. -/
def steps : List Step :=
  [.seed first .workspace .denyExternal, .seed second .workspace .denyExternal,
    .call (call first) false]

end Sample

theorem Sample.run_seeded (sha256 : String → String) (a b : EgressPolicyContext)
    (payload : EgressPolicyPayload) (call : Call) :
    (Reference.machine sha256).run
        [.seed a .workspace payload, .seed b .workspace payload, .call call false] =
      (Reference.createAndActivate sha256 call (Reference.seed b .workspace payload
        (Reference.seed a .workspace payload Reference.empty))).2 := rfl

theorem Sample.etag_stored (context : EgressPolicyContext) : (Sample.call context).expectedEtag =
    (Reference.stored (Sample.first.scope .workspace) 1 .denyExternal).etag fun s => s := rfl

/-- The second workspace's call, with the key and the request of the first one's, returns the first one's
binding. -/
theorem reference_crosses : ¬Lawful Reference.store (fun s => s)
    ((Reference.machine fun s => s).events (Sample.steps ++ [.call (Sample.call Sample.second) false])) := by
  refine Reference.not_lawful_of_not_clear fun hclear => ?_
  have hne : Sample.second.scope .workspace ≠ Sample.first.scope .workspace := by decide
  have hstate := Sample.run_seeded (fun s => s) Sample.first Sample.second .denyExternal
    (Sample.call Sample.first)
  have hkey : (Sample.call Sample.second).replayKey = (Sample.call Sample.first).replayKey := rfl
  rw [Sample.steps, hstate, Reference.Clear, hkey] at hclear
  have hcurrent : (Reference.seed Sample.second .workspace .denyExternal
      (Reference.seed Sample.first .workspace .denyExternal Reference.empty)).current.get?
        (Sample.first.scope .workspace) =
      some (Reference.stored (Sample.first.scope .workspace) 1 .denyExternal) := by
    change (Dict.set _ _ _).get? (Sample.first.scope .workspace) = _
    rw [Dict.get?_set_of_ne _ hne]
    exact Dict.get?_set_self _ _ _
  have hfresh : (Reference.seed Sample.second .workspace .denyExternal
      (Reference.seed Sample.first .workspace .denyExternal Reference.empty)).idempotency.get?
        (Sample.call Sample.first).replayKey = none := rfl
  generalize Reference.seed Sample.second .workspace .denyExternal
    (Reference.seed Sample.first .workspace .denyExternal Reference.empty) = seeded at *
  obtain ⟨view, hscope, hrecorded⟩ : ∃ view, view.scope = Sample.first.scope .workspace ∧
      (Reference.createAndActivate (fun s => s) (Sample.call Sample.first) seeded).2.idempotency.get?
        (Sample.call Sample.first).replayKey =
          some ((Sample.call Sample.first).fingerprint fun s => s, view) := by
    rw [Reference.createAndActivate, hfresh]
    dsimp only
    rw [show (Sample.call Sample.first).scope = Sample.first.scope .workspace from rfl, hcurrent]
    dsimp only
    rw [if_neg (not_not.2 (Sample.etag_stored Sample.first).symm)]
    exact ⟨_, rfl, Dict.get?_set_self _ _ _⟩
  refine hne ((hclear _ hrecorded ?_).symm.trans hscope)
  rw [Call.fingerprint, Call.fingerprint, Sample.etag_stored, Sample.etag_stored]
  rfl

end DaonUser.Egress
