import Mathlib.Data.Finset.Basic
import Mathlib.Data.List.Perm.Basic
import Mathlib.Logic.Relation
import Mathlib.Order.WellFounded
import Mathlib.Data.Fintype.Defs
import Mathlib.Data.Finite.Defs
import Mathlib.Order.Preorder.Finite

/-!
# Rounds of what is ready

Nodes have names and need others by name. `rounds` takes what is ready out of the nodes that remain, round
after round, or fails when nothing is ready. It fails exactly on a cycle (`rounds_isSome_iff`), every node
comes in the earliest round that its needs allow (`rounds_earliest`), and the order of the nodes plays no
part (`rounds_perm`).
-/

namespace Lib

section Rounds

variable {α κ : Type} (name : α → κ) (needs : α → List κ)

/-- All that the node needs is done. -/
def Ready (done : Finset κ) (a : α) : Prop := ∀ k ∈ needs a, k ∈ done

/-- One node needs another, by their names. -/
def Needs (nodes : List α) (k k' : κ) : Prop := ∃ a ∈ nodes, name a = k ∧ k' ∈ needs a

/-- What the nodes need is done or among them. -/
def Closed (done : Finset κ) (nodes : List α) : Prop :=
  ∀ a ∈ nodes, ∀ k ∈ needs a, k ∈ done ∨ ∃ b ∈ nodes, name b = k

/-- A node with this name is in the round with this index. -/
def InRound (batches : List (List α)) (k : κ) (i : Nat) : Prop :=
  ∃ batch, batches[i]? = some batch ∧ ∃ a ∈ batch, name a = k

section

variable {name} {batches : List (List α)}

theorem inRound_zero {batch : List α} {k : κ} :
    InRound name (batch :: batches) k 0 ↔ ∃ a ∈ batch, name a = k := by
  simp [InRound]

theorem inRound_succ {batch : List α} {k : κ} {i : Nat} :
    InRound name (batch :: batches) k (i + 1) ↔ InRound name batches k i := by
  simp [InRound]

theorem mem_names_of_inRound {k : κ} {i : Nat} (h : InRound name batches k i) :
    k ∈ batches.flatten.map name := by
  obtain ⟨batch, hbatch, a, ha, rfl⟩ := h
  exact List.mem_map_of_mem (List.mem_flatten.2 ⟨batch, List.mem_of_getElem? hbatch, ha⟩)

theorem inRound_unique (hnodup : (batches.flatten.map name).Nodup) {k : κ} {i j : Nat}
    (hi : InRound name batches k i) (hj : InRound name batches k j) : i = j := by
  induction batches generalizing i j with
  | nil =>
    obtain ⟨batch, hbatch, -⟩ := hi
    cases hbatch
  | cons batch batches ih =>
    rw [List.flatten_cons, List.map_append, List.nodup_append'] at hnodup
    obtain ⟨-, hrest, hdisjoint⟩ := hnodup
    have hfirst : ∀ {n}, InRound name (batch :: batches) k 0 → ¬InRound name batches k n := by
      intro n hzero hn
      obtain ⟨a, ha, rfl⟩ := inRound_zero.1 hzero
      exact hdisjoint (List.mem_map_of_mem ha) (mem_names_of_inRound hn)
    cases i with
    | zero =>
      cases j with
      | zero => rfl
      | succ j => exact absurd (inRound_succ.1 hj) (hfirst hi)
    | succ i =>
      cases j with
      | zero => exact absurd (inRound_succ.1 hi) (hfirst hj)
      | succ j => exact congrArg (· + 1) (ih hrest (inRound_succ.1 hi) (inRound_succ.1 hj))

end

variable [DecidableEq κ] (arrange : List α → List α)

instance (done : Finset κ) : DecidablePred (Ready needs done) :=
  fun _ => inferInstanceAs (Decidable (∀ _ ∈ _, _))

def readyOf (done : Finset κ) (nodes : List α) : List α := nodes.filter fun a => Ready needs done a

def restOf (done : Finset κ) (nodes : List α) : List α := nodes.filter fun a => ¬Ready needs done a

section

variable {needs} {done : Finset κ} {nodes : List α} {a : α}

@[simp] theorem mem_readyOf : a ∈ readyOf needs done nodes ↔ a ∈ nodes ∧ Ready needs done a := by
  simp [readyOf]

@[simp] theorem mem_restOf : a ∈ restOf needs done nodes ↔ a ∈ nodes ∧ ¬Ready needs done a := by
  simp [restOf]

theorem readyOf_append_restOf : (readyOf needs done nodes ++ restOf needs done nodes).Perm nodes := by
  have hparts := List.filter_append_perm (fun a => decide (Ready needs done a)) nodes
  simpa only [readyOf, restOf, decide_not] using hparts

theorem length_restOf_lt (h : readyOf needs done nodes ≠ []) :
    (restOf needs done nodes).length < nodes.length := by
  have hlength := (@readyOf_append_restOf _ _ needs _ done nodes).length_eq
  have hpos := List.length_pos_of_ne_nil h
  rw [List.length_append] at hlength
  omega

end

/-- The rounds, each as `arrange` orders it, `none` where nodes remain and none is ready. -/
def rounds (done : Finset κ) (nodes : List α) : Option (List (List α)) :=
  if nodes = [] then some []
  else if readyOf needs done nodes = [] then none
  else
    (rounds (done ∪ ((readyOf needs done nodes).map name).toFinset) (restOf needs done nodes)).map
      (arrange (readyOf needs done nodes) :: ·)
termination_by nodes.length
decreasing_by exact length_restOf_lt ‹_›

variable {name needs arrange} {done : Finset κ} {nodes : List α} {batches : List (List α)}

theorem rounds_eq_some (h : rounds name needs arrange done nodes = some batches) :
    (nodes = [] ∧ batches = []) ∨
      ∃ rest, batches = arrange (readyOf needs done nodes) :: rest ∧ readyOf needs done nodes ≠ [] ∧
        rounds name needs arrange (done ∪ ((readyOf needs done nodes).map name).toFinset)
          (restOf needs done nodes) = some rest := by
  rw [rounds] at h
  split at h
  · next hnil => exact Or.inl ⟨hnil, (Option.some.inj h).symm⟩
  · split at h
    · cases h
    · next hready =>
      obtain ⟨rest, hrest, rfl⟩ := Option.map_eq_some_iff.1 h
      exact Or.inr ⟨rest, rfl, hready, hrest⟩

theorem Closed.rest (h : Closed name needs done nodes) :
    Closed name needs (done ∪ ((readyOf needs done nodes).map name).toFinset)
      (restOf needs done nodes) := by
  intro a ha k hk
  rcases h a (mem_restOf.1 ha).1 k hk with hdone | ⟨b, hb, rfl⟩
  · exact Or.inl (Finset.mem_union_left _ hdone)
  · by_cases hready : Ready needs done b
    · have hmem : name b ∈ (readyOf needs done nodes).map name :=
        List.mem_map_of_mem (mem_readyOf.2 ⟨hb, hready⟩)
      exact Or.inl (Finset.mem_union_right _ (List.mem_toFinset.2 hmem))
    · exact Or.inr ⟨b, mem_restOf.2 ⟨hb, hready⟩, rfl⟩

omit [DecidableEq κ] in
theorem exists_needed {a : α} (h : ¬Ready needs done a) : ∃ k ∈ needs a, k ∉ done := by
  simpa [Ready] using h

/-! ## What is scheduled -/

section Scheduled

variable (harrange : ∀ nodes, (arrange nodes).Perm nodes)

include harrange

theorem flatten_rounds (h : rounds name needs arrange done nodes = some batches) :
    batches.flatten.Perm nodes := by
  induction batches generalizing done nodes with
  | nil =>
    rcases rounds_eq_some h with ⟨rfl, -⟩ | ⟨rest, hcons, -⟩
    · exact List.Perm.refl _
    · cases hcons
  | cons batch batches ih =>
    rcases rounds_eq_some h with ⟨-, hnil⟩ | ⟨rest, hcons, -, hrest⟩
    · cases hnil
    · obtain ⟨rfl, rfl⟩ := List.cons.inj hcons
      rw [List.flatten_cons]
      exact ((harrange _).append (ih hrest)).trans readyOf_append_restOf

theorem rounds_ne_nil (h : rounds name needs arrange done nodes = some batches) :
    ∀ batch ∈ batches, batch ≠ [] := by
  induction batches generalizing done nodes with
  | nil => simp
  | cons batch batches ih =>
    rcases rounds_eq_some h with ⟨-, hnil⟩ | ⟨rest, hcons, hready, hrest⟩
    · cases hnil
    · obtain ⟨rfl, rfl⟩ := List.cons.inj hcons
      intro b hb
      rcases List.mem_cons.1 hb with rfl | hb
      · intro hnil
        have hperm := harrange (readyOf needs done nodes)
        rw [hnil] at hperm
        exact hready hperm.nil_eq.symm
      · exact ih hrest b hb

theorem rounds_after (h : rounds name needs arrange done nodes = some batches) {i : Nat}
    {batch : List α} (hbatch : batches[i]? = some batch) {a : α} (ha : a ∈ batch) {k : κ}
    (hk : k ∈ needs a) : k ∈ done ∨ ∃ j < i, InRound name batches k j := by
  induction batches generalizing done nodes i with
  | nil => cases hbatch
  | cons first batches ih =>
    rcases rounds_eq_some h with ⟨-, hnil⟩ | ⟨rest, hcons, -, hrest⟩
    · cases hnil
    obtain ⟨rfl, rfl⟩ := List.cons.inj hcons
    cases i with
    | zero =>
      obtain rfl : _ = batch := Option.some.inj hbatch
      exact Or.inl ((mem_readyOf.1 ((harrange _).mem_iff.1 ha)).2 k hk)
    | succ i =>
      rcases ih hrest hbatch with hdone | ⟨j, hj, hin⟩
      · rcases Finset.mem_union.1 hdone with hdone | hnow
        · exact Or.inl hdone
        · obtain ⟨b, hb, hname⟩ := List.mem_map.1 (List.mem_toFinset.1 hnow)
          exact Or.inr ⟨0, Nat.zero_lt_succ i, inRound_zero.2 ⟨b, (harrange _).mem_iff.2 hb, hname⟩⟩
      · exact Or.inr ⟨j + 1, Nat.succ_lt_succ hj, inRound_succ.2 hin⟩

/-- A node is in no later round than a numbering puts it in that puts what is needed before what needs it. -/
theorem rounds_earliest {level : κ → Nat} {n : Nat} (hclosed : Closed name needs done nodes)
    (hlevel : ∀ a ∈ nodes, ∀ k ∈ needs a, level k < level (name a))
    (hfrom : ∀ a ∈ nodes, n ≤ level (name a))
    (h : rounds name needs arrange done nodes = some batches) {i : Nat} {batch : List α}
    (hbatch : batches[i]? = some batch) {a : α} (ha : a ∈ batch) : n + i ≤ level (name a) := by
  induction batches generalizing done nodes n i with
  | nil => cases hbatch
  | cons first batches ih =>
    rcases rounds_eq_some h with ⟨-, hnil⟩ | ⟨rest, hcons, -, hrest⟩
    · cases hnil
    obtain ⟨rfl, rfl⟩ := List.cons.inj hcons
    cases i with
    | zero =>
      obtain rfl : _ = batch := Option.some.inj hbatch
      exact hfrom a (mem_readyOf.1 ((harrange _).mem_iff.1 ha)).1
    | succ i =>
      -- what is not ready needs another node, which is not below `n` either
      have hnext : ∀ b ∈ restOf needs done nodes, n + 1 ≤ level (name b) := by
        intro b hb
        obtain ⟨hmem, hunready⟩ := mem_restOf.1 hb
        obtain ⟨k, hk, hnew⟩ := exists_needed hunready
        rcases hclosed b hmem k hk with hdone | ⟨c, hc, rfl⟩
        · exact absurd hdone hnew
        · have hbelow := hlevel b hmem _ hk
          have hc := hfrom c hc
          omega
      have hrec := ih hclosed.rest (fun b hb => hlevel b (mem_restOf.1 hb).1) hnext hrest hbatch
      omega

end Scheduled

/-! ## Cycles -/

omit [DecidableEq κ] in
theorem exists_cycle {R : κ → κ → Prop} {names : List κ} (hne : names ≠ [])
    (hnext : ∀ k ∈ names, ∃ k' ∈ names, R k k') : ∃ k, Relation.TransGen R k k := by
  by_contra hacyclic
  rw [not_exists] at hacyclic
  let S := {k // k ∈ names}
  let r : S → S → Prop := fun k' k => Relation.TransGen R k.1 k'.1
  have : IsTrans S r := ⟨fun _ _ _ h h' => h'.trans h⟩
  have : Std.Irrefl r := ⟨fun k => hacyclic k.1⟩
  have hfinite : Finite S := (List.finite_toSet names)
  have hwf : WellFounded r := Finite.wellFounded_of_trans_of_irrefl r
  obtain ⟨k₀, hk₀⟩ := List.exists_mem_of_ne_nil _ hne
  obtain ⟨m, -, hmin⟩ := hwf.has_min Set.univ ⟨⟨k₀, hk₀⟩, trivial⟩
  obtain ⟨k', hk', hstep⟩ := hnext m.1 m.2
  exact hmin ⟨k', hk'⟩ trivial (Relation.TransGen.single hstep)

theorem exists_cycle_of_rounds (hclosed : Closed name needs done nodes)
    (h : rounds name needs arrange done nodes = none) :
    ∃ k, Relation.TransGen (Needs name needs nodes) k k := by
  fun_induction rounds name needs arrange done nodes with
  | case1 done => cases h
  | case2 done nodes hne hready =>
    refine @exists_cycle _ _ (nodes.map name) (by simpa using hne) ?_
    intro k hk
    obtain ⟨a, ha, rfl⟩ := List.mem_map.1 hk
    have hunready : ¬Ready needs done a := by
      intro h'
      have hmem := mem_readyOf.2 ⟨ha, h'⟩
      rw [hready] at hmem
      cases hmem
    obtain ⟨k', hk', hnew⟩ := exists_needed hunready
    rcases hclosed a ha k' hk' with hdone | ⟨b, hb, rfl⟩
    · exact absurd hdone hnew
    · exact ⟨name b, List.mem_map_of_mem hb, a, ha, rfl, hk'⟩
  | case3 done nodes hne hready ih =>
    obtain ⟨k, hk⟩ := ih hclosed.rest (Option.map_eq_none_iff.1 h)
    refine ⟨k, Relation.TransGen.mono ?_ k k hk⟩
    rintro k k' ⟨a, ha, hname, hneeds⟩
    exact ⟨a, (mem_restOf.1 ha).1, hname, hneeds⟩

omit [DecidableEq κ] in
theorem acyclic_of_inRound (hperm : batches.flatten.Perm nodes) (hnodup : (nodes.map name).Nodup)
    (hafter : ∀ i batch, batches[i]? = some batch → ∀ a ∈ batch, ∀ k ∈ needs a,
      ∃ j < i, InRound name batches k j) (k : κ) :
    ¬Relation.TransGen (Needs name needs nodes) k k := by
  have hnodup' : (batches.flatten.map name).Nodup := (hperm.map name).nodup_iff.2 hnodup
  have hstep : ∀ k k', Needs name needs nodes k k' → ∀ i, InRound name batches k i →
      ∃ j < i, InRound name batches k' j := by
    rintro k k' ⟨a, ha, rfl, hneeds⟩ i ⟨batch, hbatch, b, hb, hname⟩
    have hmem : b ∈ nodes :=
      hperm.mem_iff.1 (List.mem_flatten.2 ⟨batch, List.mem_of_getElem? hbatch, hb⟩)
    obtain rfl : b = a := List.inj_on_of_nodup_map hnodup hmem ha hname
    exact hafter i batch hbatch b hb k' hneeds
  have hpath : ∀ k', Relation.TransGen (Needs name needs nodes) k k' → ∀ i, InRound name batches k i →
      ∃ j < i, InRound name batches k' j := by
    intro k' hpath
    induction hpath with
    | single h => exact hstep _ _ h
    | tail _ h ih =>
      intro i hi
      obtain ⟨j, hj, hin⟩ := ih i hi
      obtain ⟨j', hj', hin'⟩ := hstep _ _ h j hin
      exact ⟨j', Nat.lt_trans hj' hj, hin'⟩
  intro hcycle
  obtain ⟨k', ⟨a, ha, rfl, -⟩, -⟩ := Relation.TransGen.head'_iff.1 hcycle
  obtain ⟨batch, hbatch, hin⟩ := List.mem_flatten.1 (hperm.mem_iff.2 ha)
  obtain ⟨i, hi⟩ := List.getElem?_of_mem hbatch
  obtain ⟨j, hj, hj'⟩ := hpath _ hcycle i ⟨batch, hi, a, hin, rfl⟩
  have heq := inRound_unique hnodup' hj' ⟨batch, hi, a, hin, rfl⟩
  omega

theorem rounds_isSome_iff (harrange : ∀ nodes, (arrange nodes).Perm nodes)
    (hnodup : (nodes.map name).Nodup) (hclosed : Closed name needs ∅ nodes) :
    (rounds name needs arrange ∅ nodes).isSome ↔
      ∀ k, ¬Relation.TransGen (Needs name needs nodes) k k := by
  constructor
  · intro h
    obtain ⟨batches, hbatches⟩ := Option.isSome_iff_exists.1 h
    refine acyclic_of_inRound (flatten_rounds harrange hbatches) hnodup ?_
    intro i batch hbatch a ha k hk
    rcases rounds_after harrange hbatches hbatch ha hk with hdone | hin
    · exact absurd hdone (Finset.notMem_empty k)
    · exact hin
  · intro hacyclic
    cases h : rounds name needs arrange ∅ nodes with
    | some batches => rfl
    | none =>
      obtain ⟨k, hk⟩ := exists_cycle_of_rounds hclosed h
      exact absurd hk (hacyclic k)

theorem rounds_perm {nodes' : List α}
    (harrange : ∀ ready ready', ready ⊆ nodes → ready.Perm ready' → arrange ready = arrange ready')
    (hperm : nodes.Perm nodes') :
    rounds name needs arrange done nodes = rounds name needs arrange done nodes' := by
  fun_induction rounds name needs arrange done nodes generalizing nodes' with
  | case1 done => rw [hperm.nil_eq.symm, rounds, if_pos rfl]
  | case2 done nodes hne hready =>
    have hfilter : (readyOf needs done nodes).Perm (readyOf needs done nodes') := hperm.filter _
    rw [rounds, if_neg (fun h => hne (h ▸ hperm).eq_nil), if_pos ((hready ▸ hfilter).nil_eq.symm)]
  | case3 done nodes hne hready ih =>
    have hfilter : (readyOf needs done nodes).Perm (readyOf needs done nodes') := hperm.filter _
    have hrest : (restOf needs done nodes).Perm (restOf needs done nodes') := hperm.filter _
    have hne' : nodes' ≠ [] := fun h => hne (h ▸ hperm).eq_nil
    have hready' : readyOf needs done nodes' ≠ [] := fun h => hready (h ▸ hfilter).eq_nil
    have hnames : ((readyOf needs done nodes).map name).toFinset =
        ((readyOf needs done nodes').map name).toFinset :=
      List.toFinset_eq_of_perm _ _ (hfilter.map name)
    have hfirst := harrange _ _ (fun a ha => (mem_readyOf.1 ha).1) hfilter
    have hlater := ih (fun r r' hsub => harrange r r' fun a ha => (mem_restOf.1 (hsub ha)).1) hrest
    conv_rhs => rw [rounds, if_neg hne', if_neg hready']
    rw [hlater, hnames, hfirst]

end Rounds

end Lib
