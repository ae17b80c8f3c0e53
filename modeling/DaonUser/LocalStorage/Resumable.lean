import DaonUser.Lib.Chain
import DaonUser.LocalStorage.SyncQueue
import Mathlib.Data.List.Sort

/-!
# Local storage: the resumable operations

`Sound` says that the versions of every operation are contiguous from 1 and belong to one workspace. A
method leaves the rows as they are, goes back to the committed ones or appends the next version of one
operation (`append_spec`), so the rows are sound after any methods, failed commits and restarts
(`sound_run`).
-/

namespace DaonUser.LocalStorage

open Lib

variable {digit : Char → Bool}

/-! ## Sound rows -/

/-- One workspace an operation, and versions contiguous from 1. -/
structure Sound (rows : List QueueRow) : Prop where
  workspace : ∀ row ∈ rows, isWorkspaceId row.workspaceId = true
  owner : ∀ row ∈ rows, ∀ other ∈ rows, row.operationId = other.operationId →
    row.workspaceId = other.workspaceId
  chained : Chained QueueRow.operationId QueueRow.version rows

/-- The row may be appended: its workspace owns its operation, and its version is the next one. -/
structure Next (rows : List QueueRow) (row : QueueRow) : Prop where
  workspace : isWorkspaceId row.workspaceId = true
  owner : ∀ other ∈ rows, other.operationId = row.operationId →
    other.workspaceId = row.workspaceId
  chained : Extends QueueRow.operationId QueueRow.version rows row

namespace Sound

variable {rows : List QueueRow} {row : QueueRow}

theorem nil : Sound [] := ⟨by simp, by simp, .nil⟩

theorem append (h : Sound rows) (hnext : Next rows row) : Sound (rows ++ [row]) := by
  refine ⟨?_, ?_, h.chained.append hnext.chained⟩
  · simp only [List.mem_append, List.mem_singleton]
    rintro other (hother | rfl)
    · exact h.workspace other hother
    · exact hnext.workspace
  · simp only [List.mem_append, List.mem_singleton]
    rintro a (ha | rfl) b (hb | rfl) hsame
    · exact h.owner a ha b hb hsame
    · exact hnext.owner a ha hsame
    · exact (hnext.owner b hb hsame.symm).symm
    · rfl

end Sound

/-! ## What a method does to the rows -/

/-- What `append_sync_queue_state` leaves. -/
inductive Appends (s : Store) : Store → Prop where
  | unchanged : Appends s s
  | rolledBack : Appends s s.rollback
  | opened {rows : List QueueRow} {row : QueueRow} (view : s.view = some rows)
      (next : Next rows row) : Appends s { s with view := some (rows ++ [row]) }
  | committed {rows : List QueueRow} {row : QueueRow} (view : s.view = some rows)
      (next : Next rows row) : Appends s ⟨rows ++ [row], some (rows ++ [row])⟩

theorem post_raiseDriver {α : Type} {fault : Option String} {f : PUnit → Method α} {s : Store}
    {Q : Except StorageError α → Store → Prop} (herror : ∀ e, Q (.error e) s)
    (hok : Call.Post (f ⟨⟩) s Q) : Call.Post (raiseDriver fault >>= f) s Q := by
  cases fault with
  | none => exact hok
  | some name => exact herror _

theorem post_db {α : Type} {f : List QueueRow → Method α} {s : Store}
    {Q : Except StorageError α → Store → Prop} (herror : ∀ e, Q (.error e) s)
    (hok : ∀ rows, s.view = some rows → Call.Post (f rows) s Q) : Call.Post (db >>= f) s Q := by
  refine Call.post_query (fun e _ => herror e) fun rows hrows => hok rows ?_
  cases hview : s.view with
  | none => simp [hview] at hrows
  | some rows' =>
    simp only [hview, Except.ok.injEq] at hrows
    rw [hrows]

theorem insert_spec {s : Store} {faults : Faults} {rows : List QueueRow} {row : QueueRow}
    (view : s.view = some rows) (next : Next rows row) :
    Call.Post (insertState faults rows row) s fun _ s' => Appends s s' := by
  refine post_raiseDriver (fun _ => .unchanged) ?_
  refine Call.post_ite (fun _ => ?_) fun _ => Call.post_modify (Call.post_raise .rolledBack)
  refine Call.post_modify ?_
  cases faults.commit with
  | none => exact .committed view next
  | some fault =>
    obtain ⟨name, written⟩ := fault
    cases written with
    | true => exact .committed view next
    | false => exact .opened view next

theorem append_spec (faults : Faults) (a : Append) (s : Store) :
    Call.Post (appendSyncQueueState digit faults a) s fun _ s' => Appends s s' := by
  refine Call.post_ensure (fun _ => .unchanged) fun hscope => ?_
  cases ApprovalState.ofText a.approvalState with
  | none => exact .unchanged
  | some state =>
    refine Call.post_ensure (fun _ => .unchanged) fun hvalid => ?_
    refine post_db (fun _ => .unchanged) fun rows view => ?_
    refine post_raiseDriver (fun _ => .unchanged) ?_
    refine Call.post_ensure (fun _ => .unchanged) fun howner => ?_
    refine Call.post_ensure (fun _ => .unchanged) fun _ => ?_
    cases hfound : rows.find? fun row => row.SameKey (a.row state) with
    | some replay =>
      simp only [Call.Post, Call.ensure]
      split <;> exact .unchanged
    | none =>
      refine Call.post_ensure (fun _ => .unchanged) fun hprior => ?_
      refine insert_spec view ⟨hscope, howner, ?_, ?_⟩
      · rw [mem_versionsOf]
        rintro ⟨row, hrow, hid, hversion⟩
        have hnone := List.find?_eq_none.1 hfound row hrow
        simp only [decide_eq_true_eq] at hnone
        exact hnone ⟨howner row hrow hid, hid, hversion⟩
      · obtain ⟨-, -, -, -, -, -, hfirst, hprevious⟩ := hvalid
        cases hcase : a.previousVersion with
        | none => exact Or.inl (hfirst.2 hcase)
        | some previous =>
          obtain ⟨prior, hmem, -, hid, hversion⟩ := hprior previous hcase
          refine Or.inr (mem_versionsOf.2 ⟨prior, hmem, hid, ?_⟩)
          rw [hversion]
          exact hprevious previous hcase

/-- The rows of the file and those the connection sees are sound. -/
def SoundStore (s : Store) : Prop := Sound s.committed ∧ ∀ rows ∈ s.view, Sound rows

theorem SoundStore.rollback {s : Store} (h : SoundStore s) : SoundStore s.rollback := by
  refine ⟨h.1, fun rows hrows => ?_⟩
  obtain ⟨_, -, rfl⟩ := Option.map_eq_some_iff.1 hrows
  exact h.1

theorem SoundStore.commit {s : Store} (h : SoundStore s) : SoundStore s.commit := by
  refine ⟨?_, h.2⟩
  unfold Store.commit
  cases hview : s.view with
  | none => exact h.1
  | some rows => exact h.2 rows hview

theorem SoundStore.appends {s s' : Store} (h : SoundStore s) (happends : Appends s s') :
    SoundStore s' := by
  cases happends with
  | unchanged => exact h
  | rolledBack => exact h.rollback
  | opened view next =>
    have hnew := (h.2 _ view).append next
    exact ⟨h.1, fun rows hrows => Option.some.inj hrows ▸ hnew⟩
  | committed view next =>
    have hnew := (h.2 _ view).append next
    exact ⟨hnew, fun rows hrows => Option.some.inj hrows ▸ hnew⟩

theorem get_spec (fault : Option String) (workspaceId operationId : String) (s : Store) :
    Call.Post (getSyncQueueState fault workspaceId operationId) s fun _ s' => s' = s := by
  refine Call.post_ensure (fun _ => rfl) fun _ => Call.post_ensure (fun _ => rfl) fun _ => ?_
  refine post_db (fun _ => rfl) fun rows view => post_raiseDriver (fun _ => rfl) ?_
  cases latestRow rows workspaceId operationId <;> rfl

theorem getGlobal_spec (fault : Option String) (operationId : String) (s : Store) :
    Call.Post (getSyncQueueStateGlobal fault operationId) s fun _ s' => s' = s := by
  refine Call.post_ensure (fun _ => rfl) fun _ => ?_
  refine post_db (fun _ => rfl) fun rows view => post_raiseDriver (fun _ => rfl) ?_
  split
  · exact get_spec ..
  · rfl

theorem list_spec (fault : Option String) (workspaceId : String) (s : Store) :
    Call.Post (listResumableSyncOperations fault workspaceId) s fun _ s' => s' = s := by
  refine Call.post_ensure (fun _ => rfl) fun _ => ?_
  exact post_db (fun _ => rfl) fun rows view => post_raiseDriver (fun _ => rfl) rfl

theorem sound_next {s : Store} (h : SoundStore s) (i : QueueInput) :
    SoundStore ((syncQueue digit).next s i) := by
  have hread : ∀ {α : Type} {x : Method α} (f : α → QueueReply),
      Call.Post x s (fun _ s' => s' = s) → SoundStore ((f <$> x) s).2 := by
    intro α x f hx
    have hsame : (x s).2 = s := hx
    rw [Call.map_apply, hsame]
    exact h
  change SoundStore (perform digit i s).2
  cases i with
  | append a faults =>
    simp only [perform, Call.map_apply]
    exact h.appends (append_spec faults a s)
  | get workspaceId operationId fault => exact hread _ (get_spec ..)
  | getGlobal operationId fault => exact hread _ (getGlobal_spec ..)
  | list workspaceId fault => exact hread _ (list_spec ..)
  | lock => exact ⟨h.1, fun rows hrows => by cases hrows⟩
  | unlock =>
    refine ⟨h.1, fun rows hrows => ?_⟩
    obtain rfl : s.view.getD s.committed = rows := Option.some.inj hrows
    exact h.commit.1
  | settle commits =>
    cases commits with
    | true => exact h.commit
    | false => exact h.rollback

theorem sound_run (is : List QueueInput) : SoundStore ((syncQueue digit).run is) := by
  have hinit : SoundStore (syncQueue digit).init := ⟨.nil, fun rows hrows => by cases hrows⟩
  exact (syncQueue digit).run_induction (I := SoundStore) hinit (fun s i h => sound_next h i) is

/-! ## The latest versions -/

variable {rows : List QueueRow} {row : QueueRow} {workspaceId operationId : String}

/-- The row is the latest version of its operation. -/
abbrev IsLatest (rows : List QueueRow) (row : QueueRow) : Prop :=
  Latest QueueRow.operationId QueueRow.version rows row

theorem mem_latestVersions {v : Option Int} :
    (operationId, v) ∈ latestVersions rows workspaceId ↔
      (∃ row ∈ rows, row.workspaceId = workspaceId ∧ row.operationId = operationId) ∧
      v = (((rows.filter fun row => row.workspaceId = workspaceId).filter fun row =>
        row.operationId = operationId).map QueueRow.version).max? := by
  simp only [latestVersions, List.mem_map, List.mem_dedup, List.mem_filter, decide_eq_true_eq,
    Prod.mk.injEq]
  constructor
  · rintro ⟨_, ⟨row, ⟨hrow, hworkspace⟩, rfl⟩, rfl, rfl⟩
    exact ⟨⟨row, hrow, hworkspace, rfl⟩, rfl⟩
  · rintro ⟨⟨row, hrow, hworkspace, rfl⟩, rfl⟩
    exact ⟨_, ⟨row, ⟨hrow, hworkspace⟩, rfl⟩, rfl, rfl⟩

theorem mem_latestVersions_row (h : Sound rows) (hrow : row ∈ rows)
    (hworkspace : row.workspaceId = workspaceId) :
    (row.operationId, some row.version) ∈ latestVersions rows workspaceId ↔ IsLatest rows row := by
  rw [mem_latestVersions, eq_comm, List.max?_eq_some_iff]
  simp only [List.mem_map, List.mem_filter, decide_eq_true_eq]
  constructor
  · rintro ⟨-, -, hmax⟩
    refine ⟨hrow, fun other hother hid => hmax _ ⟨other, ⟨⟨hother, ?_⟩, hid⟩, rfl⟩⟩
    rw [h.owner other hother row hrow hid, hworkspace]
  · intro hlatest
    refine ⟨⟨row, hrow, hworkspace, rfl⟩, ⟨row, ⟨⟨hrow, hworkspace⟩, rfl⟩, rfl⟩, ?_⟩
    rintro _ ⟨other, ⟨⟨hother, -⟩, hid⟩, rfl⟩
    exact hlatest.highest other hother hid

theorem nodup_latestVersions : (latestVersions rows workspaceId).Nodup := by
  refine List.Nodup.map (fun a b hab => ?_) (List.nodup_dedup _)
  exact (Prod.mk.inj hab).1

theorem flatMap_latest (current : List QueueRow)
    (hcurrent : ∀ row ∈ current, row ∈ rows ∧ row.workspaceId = workspaceId) :
    (current.flatMap fun row => ((latestVersions rows workspaceId).filter fun latest =>
        latest = (row.operationId, some row.version)).map fun _ => row.operationId) =
      (current.filter fun row =>
        (row.operationId, some row.version) ∈ latestVersions rows workspaceId).map
        QueueRow.operationId := by
  induction current with
  | nil => rfl
  | cons row current ih =>
    rw [List.flatMap_cons, ih fun row hrow => hcurrent row (List.mem_cons_of_mem _ hrow),
      List.filter_eq]
    by_cases hmem : (row.operationId, some row.version) ∈ latestVersions rows workspaceId
    · rw [List.count_eq_one_of_mem nodup_latestVersions hmem]
      simp [hmem]
    · rw [List.count_eq_zero_of_not_mem hmem]
      simp [hmem]

/-- The rows of `resumable`, before they are sorted. -/
def resumableRows (rows : List QueueRow) (workspaceId : String) : List QueueRow :=
  (rows.filter fun row => row.workspaceId = workspaceId ∧ row.approvalState.Resumable).filter
    fun row => (row.operationId, some row.version) ∈ latestVersions rows workspaceId

theorem mem_resumableRows (h : Sound rows) :
    row ∈ resumableRows rows workspaceId ↔
      IsLatest rows row ∧ row.workspaceId = workspaceId ∧ row.approvalState.Resumable := by
  simp only [resumableRows, List.mem_filter, decide_eq_true_eq]
  constructor
  · rintro ⟨⟨hrow, hworkspace, hstate⟩, hlatest⟩
    exact ⟨(mem_latestVersions_row h hrow hworkspace).1 hlatest, hworkspace, hstate⟩
  · rintro ⟨hlatest, hworkspace, hstate⟩
    exact ⟨⟨hlatest.mem, hworkspace, hstate⟩,
      (mem_latestVersions_row h hlatest.mem hworkspace).2 hlatest⟩

theorem resumable_perm :
    (resumable rows workspaceId).Perm ((resumableRows rows workspaceId).map QueueRow.operationId) := by
  unfold resumable
  refine (List.mergeSort_perm _ _).trans (List.Perm.of_eq ?_)
  refine flatMap_latest _ fun row hrow => ?_
  simp only [List.mem_filter, decide_eq_true_eq] at hrow
  exact ⟨hrow.1, hrow.2.1⟩

theorem mem_resumable (h : Sound rows) :
    operationId ∈ resumable rows workspaceId ↔ ∃ row, IsLatest rows row ∧
      row.workspaceId = workspaceId ∧ row.operationId = operationId ∧
      row.approvalState.Resumable := by
  rw [resumable_perm.mem_iff, List.mem_map]
  constructor
  · rintro ⟨row, hrow, hid⟩
    obtain ⟨hlatest, hworkspace, hstate⟩ := (mem_resumableRows h).1 hrow
    exact ⟨row, hlatest, hworkspace, hid, hstate⟩
  · rintro ⟨row, hlatest, hworkspace, hid, hstate⟩
    exact ⟨row, (mem_resumableRows h).2 ⟨hlatest, hworkspace, hstate⟩, hid⟩

theorem resumable_sorted (h : Sound rows) : (resumable rows workspaceId).Pairwise (· < ·) := by
  have hnodup : (resumable rows workspaceId).Nodup := by
    rw [resumable_perm.nodup_iff]
    refine List.Nodup.map_on ?_ ((h.chained.nodup.filter _).filter _)
    intro row hrow row' hrow' hid
    have hlatest := ((mem_resumableRows h).1 hrow).1
    have hlatest' := ((mem_resumableRows h).1 hrow').1
    exact h.chained.latest_unique hlatest hlatest' hid
  have hsorted : (resumable rows workspaceId).Pairwise (· ≤ ·) := by
    unfold resumable
    exact List.pairwise_mergeSort' (· ≤ ·) _
  exact (hsorted.and hnodup).imp fun hpair => lt_of_le_of_ne hpair.1 hpair.2

/-- What the queue of a store shows: sound rows in the file, and in an unlocked store sound rows of
which each workspace's list names the operations whose latest version is resumable, each once. -/
structure Resumes (digit : Char → Bool) (s : Store) : Prop where
  committed : Sound s.committed
  view : ∀ rows ∈ s.view, Sound rows
  listed : ∀ rows ∈ s.view, ∀ workspaceId, isWorkspaceId workspaceId = true →
    ∃ ids, (syncQueue digit).answer s (.list workspaceId none) = .ok (.operations ids) ∧
      ids.Pairwise (· < ·) ∧
      ∀ operationId, operationId ∈ ids ↔ ∃ row, IsLatest rows row ∧
        row.workspaceId = workspaceId ∧ row.operationId = operationId ∧ row.approvalState.Resumable

theorem resumes_run (digit : Char → Bool) (is : List QueueInput) :
    Resumes digit ((syncQueue digit).run is) := by
  have hsound := @sound_run digit is
  refine ⟨hsound.1, hsound.2, fun rows view workspaceId hworkspace => ?_⟩
  have hrows := hsound.2 rows view
  refine ⟨resumable rows workspaceId, ?_, resumable_sorted hrows, fun _ => mem_resumable hrows⟩
  have hlist : listResumableSyncOperations none workspaceId ((syncQueue digit).run is) =
      (.ok (resumable rows workspaceId), (syncQueue digit).run is) := by
    unfold listResumableSyncOperations scope db
    rw [Call.ensure_bind hworkspace, Call.query_bind (a := rows)]
    · rfl
    · rw [view]
  change (perform digit (.list workspaceId none) _).1 = _
  rw [perform, Call.map_of_ok hlist]

end DaonUser.LocalStorage
