import DaonUser.Lib.Rounds
import DaonUser.OfflineBridge.Paths
import Mathlib.Data.List.Sort
import Mathlib.Data.Prod.Lex
import Mathlib.Data.String.Basic

/-!
# The offline bridge: batches of items

`topological_batches` checks the ids and the dependencies of the items and then takes what is ready, round
after round. It returns batches exactly for items that can be brought into an order at all, each item in the
first batch that its dependencies allow, and whatever order the items come in (`topologicalBatches_lawful`).
-/

namespace DaonUser.OfflineBridge

open Lib

/-! ## Items -/

inductive SyncItemKind where
  | source
  | output
  deriving DecidableEq

structure SyncItem where
  itemId : String
  itemKind : SyncItemKind
  dependencyItemIds : List String
  deriving DecidableEq

/-- The variants of `OfflineSyncError` that `topological_batches` returns. -/
inductive BatchesError where
  | inputInvalid
  | missingDependency
  | dependencyCycle
  deriving DecidableEq

def SyncItem.new (itemId : String) (itemKind : SyncItemKind) (dependencyItemIds : List String) :
    Except BatchesError SyncItem :=
  if safeId itemId = false ∨ dependencyItemIds.any (!safeId ·) then .error .inputInvalid
  else .ok ⟨itemId, itemKind, dependencyItemIds⟩

/-- The key of `sort_by_key`. -/
def sortKey (item : SyncItem) : Bool ×ₗ String := toLex (decide (item.itemKind = .output), item.itemId)

/-- `ready.sort_by_key`. -/
def sortByKey (ready : List SyncItem) : List SyncItem :=
  ready.insertionSort fun a b => sortKey a ≤ sortKey b

def topologicalBatches (items : List SyncItem) : Except BatchesError (List (List SyncItem)) :=
  let byId := (items.map (·.itemId)).toFinset
  if byId.card ≠ items.length then .error .inputInvalid
  else if items.any fun item => item.dependencyItemIds.any (fun dependency => dependency ∉ byId) ||
      (item.itemKind = .source && !item.dependencyItemIds.isEmpty) then .error .missingDependency
  else match rounds (·.itemId) (·.dependencyItemIds) sortByKey ∅ items with
    | none => .error .dependencyCycle
    | some batches => .ok batches

/-! ## What the items have to be -/

section Items

variable (items : List SyncItem)

def DistinctIds : Prop := (items.map (·.itemId)).Nodup

def DependenciesNamed : Prop :=
  ∀ item ∈ items, ∀ dependency ∈ item.dependencyItemIds, ∃ other ∈ items, other.itemId = dependency

def SourcesFree : Prop := ∀ item ∈ items, item.itemKind = .source → item.dependencyItemIds = []

/-- The item with the first id depends on the second id. -/
def DependsOn : String → String → Prop := Needs (·.itemId) (·.dependencyItemIds) items

def Acyclic : Prop := ∀ id, ¬Relation.TransGen (DependsOn items) id id

/-- The batches are made of the items, none is empty, and every dependency of an item is in an earlier one. -/
structure Schedules (batches : List (List SyncItem)) : Prop where
  perm : batches.flatten.Perm items
  nonempty : ∀ batch ∈ batches, batch ≠ []
  after : ∀ i batch, batches[i]? = some batch → ∀ item ∈ batch, ∀ dependency ∈ item.dependencyItemIds,
    ∃ j < i, InRound (·.itemId) batches dependency j

def Earliest (batches : List (List SyncItem)) : Prop :=
  ∀ other, Schedules items other → ∀ item i j, InRound (·.itemId) batches item i →
    InRound (·.itemId) other item j → i ≤ j

end Items

variable {items : List SyncItem} {batches : List (List SyncItem)}

theorem sortByKey_perm (ready : List SyncItem) : (sortByKey ready).Perm ready :=
  List.perm_insertionSort _ ready

theorem itemId_of_sortKey {a b : SyncItem} (h : sortKey a = sortKey b) : a.itemId = b.itemId :=
  congrArg (fun key => (ofLex key).2) h

theorem sortByKey_of_perm {ready ready' : List SyncItem} (hnodup : DistinctIds items)
    (hsub : ready ⊆ items) (h : ready.Perm ready') : sortByKey ready = sortByKey ready' := by
  have hperm : (sortByKey ready).Perm (sortByKey ready') :=
    ((sortByKey_perm ready).trans h).trans (sortByKey_perm ready').symm
  have hsorted : ∀ xs : List SyncItem,
      (sortByKey xs).Pairwise fun a b => sortKey a ≤ sortKey b := by
    intro xs
    have : Std.Total fun a b : SyncItem => sortKey a ≤ sortKey b := ⟨fun a b => le_total _ _⟩
    have : IsTrans SyncItem fun a b => sortKey a ≤ sortKey b := ⟨fun _ _ _ => le_trans⟩
    exact List.pairwise_insertionSort _ xs
  refine List.Perm.eq_of_pairwise ?_ (hsorted ready) (hsorted ready') hperm
  intro a b ha hb hab hba
  have ha' : a ∈ items := hsub ((sortByKey_perm ready).mem_iff.1 ha)
  have hb' : b ∈ items := hsub (h.mem_iff.2 ((sortByKey_perm ready').mem_iff.1 hb))
  exact List.inj_on_of_nodup_map hnodup ha' hb' (itemId_of_sortKey (le_antisymm hab hba))

theorem card_ids : (items.map (·.itemId)).toFinset.card = items.length ↔ DistinctIds items := by
  constructor
  · intro h
    have hcard : (items.map (·.itemId)).toFinset.card = (items.map (·.itemId)).length := by
      rw [h, List.length_map]
    exact Multiset.toFinset_card_eq_card_iff_nodup.1 hcard
  · intro h
    rw [List.toFinset_card_of_nodup h, List.length_map]

theorem check_eq_false {ids : Finset String} {item : SyncItem} :
    (item.dependencyItemIds.any (fun dependency => dependency ∉ ids) ||
        (item.itemKind = .source && !item.dependencyItemIds.isEmpty)) = false ↔
      (∀ dependency ∈ item.dependencyItemIds, dependency ∈ ids) ∧
        (item.itemKind = .source → item.dependencyItemIds = []) := by
  simp

theorem checks_iff : (items.any fun item =>
      item.dependencyItemIds.any (fun dependency => dependency ∉ (items.map (·.itemId)).toFinset) ||
        (item.itemKind = .source && !item.dependencyItemIds.isEmpty)) = true ↔
      ¬(DependenciesNamed items ∧ SourcesFree items) := by
  have hnamed : ∀ dependency, dependency ∈ (items.map (·.itemId)).toFinset ↔
      ∃ other ∈ items, other.itemId = dependency := by
    intro dependency
    rw [List.mem_toFinset, List.mem_map]
  rw [← not_iff_not, not_not, Bool.not_eq_true, List.any_eq_false]
  simp only [Bool.not_eq_true, check_eq_false]
  simp only [hnamed]
  constructor
  · intro h
    exact ⟨fun item hitem => (h item hitem).1, fun item hitem => (h item hitem).2⟩
  · rintro ⟨hnamed, hfree⟩ item hitem
    exact ⟨hnamed item hitem, hfree item hitem⟩

theorem DependenciesNamed.closed (h : DependenciesNamed items) :
    Closed (·.itemId) (·.dependencyItemIds) ∅ items :=
  fun item hitem dependency hdep => Or.inr (h item hitem dependency hdep)

theorem topologicalBatches_cases (items : List SyncItem) :
    (¬DistinctIds items ∧ topologicalBatches items = .error .inputInvalid) ∨
    (DistinctIds items ∧ ¬(DependenciesNamed items ∧ SourcesFree items) ∧
      topologicalBatches items = .error .missingDependency) ∨
    (DistinctIds items ∧ DependenciesNamed items ∧ SourcesFree items ∧ ¬Acyclic items ∧
      topologicalBatches items = .error .dependencyCycle) ∨
    (DistinctIds items ∧ DependenciesNamed items ∧ SourcesFree items ∧ Acyclic items ∧
      ∃ batches, rounds (·.itemId) (·.dependencyItemIds) sortByKey ∅ items = some batches ∧
        topologicalBatches items = .ok batches) := by
  unfold topologicalBatches
  dsimp only
  by_cases hdistinct : DistinctIds items
  · rw [if_neg (not_not.2 (card_ids.2 hdistinct))]
    by_cases hchecks : DependenciesNamed items ∧ SourcesFree items
    · rw [if_neg (fun h => checks_iff.1 h hchecks)]
      obtain ⟨hnamed, hsources⟩ := hchecks
      have hends := rounds_isSome_iff sortByKey_perm hdistinct hnamed.closed
      cases hrounds : rounds (·.itemId) (·.dependencyItemIds) sortByKey ∅ items with
      | none =>
        have hcycle : ¬Acyclic items := by
          intro hacyclic
          rw [hrounds] at hends
          cases hends.2 hacyclic
        exact Or.inr (Or.inr (Or.inl ⟨hdistinct, hnamed, hsources, hcycle, rfl⟩))
      | some batches =>
        have hacyclic : Acyclic items := hends.1 (by rw [hrounds]; rfl)
        exact Or.inr (Or.inr (Or.inr ⟨hdistinct, hnamed, hsources, hacyclic, batches, rfl, rfl⟩))
    · rw [if_pos (checks_iff.2 hchecks)]
      exact Or.inr (Or.inl ⟨hdistinct, hchecks, rfl⟩)
  · rw [if_pos (fun h => hdistinct (card_ids.1 h))]
    exact Or.inl ⟨hdistinct, rfl⟩

theorem schedules_of_rounds
    (h : rounds (·.itemId) (·.dependencyItemIds) sortByKey ∅ items = some batches) :
    Schedules items batches where
  perm := flatten_rounds sortByKey_perm h
  nonempty := rounds_ne_nil sortByKey_perm h
  after i batch hbatch item hitem dependency hdep := by
    rcases rounds_after sortByKey_perm h hbatch hitem hdep with hdone | hin
    · exact absurd hdone (Finset.notMem_empty dependency)
    · exact hin

theorem earliest_of_rounds (hdistinct : DistinctIds items) (hnamed : DependenciesNamed items)
    (h : rounds (·.itemId) (·.dependencyItemIds) sortByKey ∅ items = some batches) :
    Earliest items batches := by
  classical
  rintro other hother id i j ⟨batch, hbatch, item, hitem, rfl⟩ hj
  have hunique : (other.flatten.map (·.itemId)).Nodup := (hother.perm.map _).nodup_iff.2 hdistinct
  let level : String → Nat := fun id => if h : ∃ j, InRound (·.itemId) other id j then h.choose else 0
  have hlevel : ∀ {id j}, InRound (·.itemId) other id j → level id = j := by
    intro id j hin
    have hex : ∃ j, InRound (·.itemId) other id j := ⟨j, hin⟩
    simp only [level, dif_pos hex]
    exact inRound_unique hunique hex.choose_spec hin
  have hbelow : ∀ a ∈ items, ∀ k ∈ a.dependencyItemIds, level k < level a.itemId := by
    intro a ha k hk
    obtain ⟨round, hround, hin⟩ := List.mem_flatten.1 (hother.perm.mem_iff.2 ha)
    obtain ⟨n, hn⟩ := List.getElem?_of_mem hround
    obtain ⟨m, hm, hneed⟩ := hother.after n round hn a hin k hk
    rw [hlevel hneed, hlevel ⟨round, hn, a, hin, rfl⟩]
    exact hm
  have hbound := rounds_earliest sortByKey_perm (n := 0) hnamed.closed hbelow
    (fun _ _ => Nat.zero_le _) h hbatch hitem
  rw [hlevel hj] at hbound
  omega

theorem DistinctIds.of_perm {items' : List SyncItem} (h : DistinctIds items) (hperm : items.Perm items') :
    DistinctIds items' :=
  (hperm.map _).nodup_iff.1 h

theorem topologicalBatches_of_perm {items' : List SyncItem} (hperm : items.Perm items') :
    topologicalBatches items = topologicalBatches items' := by
  have hids : (items.map (·.itemId)).toFinset = (items'.map (·.itemId)).toFinset :=
    List.toFinset_eq_of_perm _ _ (hperm.map _)
  have hchecks : ∀ p : SyncItem → Bool, items.any p = items'.any p := by
    intro p
    rw [Bool.eq_iff_iff, List.any_eq_true, List.any_eq_true]
    exact exists_congr fun a => and_congr_left fun _ => hperm.mem_iff
  unfold topologicalBatches
  dsimp only
  by_cases hdistinct : DistinctIds items
  · have hrounds : rounds (·.itemId) (·.dependencyItemIds) sortByKey ∅ items =
        rounds (·.itemId) (·.dependencyItemIds) sortByKey ∅ items' :=
      rounds_perm (fun ready ready' hsub => sortByKey_of_perm hdistinct hsub) hperm
    rw [hids, hperm.length_eq, hchecks, hrounds]
  · have hdistinct' : ¬DistinctIds items' := fun h => hdistinct (h.of_perm hperm.symm)
    rw [if_pos (fun h => hdistinct (card_ids.1 h)), if_pos (fun h => hdistinct' (card_ids.1 h))]

/-- `topological_batches` returns batches exactly for items with distinct ids and acyclic dependencies on each
other, sources without any, and otherwise the error that fits. The batches are a schedule of the items, none
is earlier, and the order of the items plays no part. -/
theorem topologicalBatches_lawful (items : List SyncItem) :
    ((∃ batches, topologicalBatches items = .ok batches) ↔
      DistinctIds items ∧ DependenciesNamed items ∧ SourcesFree items ∧ Acyclic items) ∧
    (topologicalBatches items = .error .inputInvalid ↔ ¬DistinctIds items) ∧
    (topologicalBatches items = .error .missingDependency ↔
      DistinctIds items ∧ ¬(DependenciesNamed items ∧ SourcesFree items)) ∧
    (topologicalBatches items = .error .dependencyCycle ↔
      DistinctIds items ∧ DependenciesNamed items ∧ SourcesFree items ∧ ¬Acyclic items) ∧
    (∀ batches, topologicalBatches items = .ok batches →
      Schedules items batches ∧ Earliest items batches) ∧
    ∀ items', items.Perm items' → topologicalBatches items' = topologicalBatches items := by
  have horder : ∀ items', items.Perm items' → topologicalBatches items' = topologicalBatches items :=
    fun items' hperm => (topologicalBatches_of_perm hperm).symm
  rcases topologicalBatches_cases items with ⟨hdistinct, h⟩ | ⟨hdistinct, hchecks, h⟩ |
    ⟨hdistinct, hnamed, hsources, hcycle, h⟩ | ⟨hdistinct, hnamed, hsources, hacyclic, batches, hrounds, h⟩
  · simp only [h, hdistinct] at horder ⊢
    refine ⟨?_, ?_, ?_, ?_, ?_, horder⟩ <;> simp_all
  · simp only [h, hdistinct] at horder ⊢
    refine ⟨?_, ?_, ?_, ?_, ?_, horder⟩ <;> simp_all
  · simp only [h, hdistinct] at horder ⊢
    refine ⟨?_, ?_, ?_, ?_, ?_, horder⟩ <;> simp_all
  · have hschedule : Schedules items batches ∧ Earliest items batches :=
      ⟨schedules_of_rounds hrounds, earliest_of_rounds hdistinct hnamed hrounds⟩
    simp only [h, hdistinct] at horder ⊢
    refine ⟨?_, ?_, ?_, ?_, ?_, horder⟩ <;> simp_all

end DaonUser.OfflineBridge
