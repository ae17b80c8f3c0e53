import DaonUser.Sync.Invariant

/-!
# Sync: what a batch comes to

Which payloads of a batch are skipped, copied or in conflict follows from the items, the completed ones and
the payloads alone (`reached`). The lemmas of `Sends` say what a loop that no error stops makes of them: one
conflict for each payload in conflict, and one target version for each copied payload, with the ids that the
port answers.
-/

namespace DaonUser.Sync

open Lib

variable {prim : Primitives}

/-- The payload claims the cloud version that its item was previewed against. -/
def Matches (items : Dict String SyncItemInput) (payload : TransferPayload) : Prop :=
  (items.get? payload.itemId).any (fun item => payload.current = item.base) = true

instance (items : Dict String SyncItemInput) (payload : TransferPayload) :
    Decidable (Matches items payload) :=
  inferInstanceAs (Decidable (_ = true))

def reached (items : Dict String SyncItemInput) :
    Finset String → List TransferPayload → List TransferPayload
  | _, [] => []
  | completed, payload :: payloads =>
    if payload.itemId ∈ completed then reached items completed payloads
    else if Matches items payload then
      payload :: reached items (insert payload.itemId completed) payloads
    else payload :: reached items completed payloads

theorem reached_cons (items : Dict String SyncItemInput) (completed : Finset String)
    (payload : TransferPayload) (payloads : List TransferPayload) :
    reached items completed (payload :: payloads) =
      if payload.itemId ∈ completed then reached items completed payloads
      else if Matches items payload then
        payload :: reached items (insert payload.itemId completed) payloads
      else payload :: reached items completed payloads :=
  rfl

namespace Operation

variable (operation : Operation) (payloads : List TransferPayload)

def conflicting : List TransferPayload :=
  (reached operation.items operation.completedItemIds payloads).filter
    fun payload => ¬Matches operation.items payload

def copied : List TransferPayload :=
  (reached operation.items operation.completedItemIds payloads).filter
    fun payload => Matches operation.items payload

theorem conflicting_eq : operation.conflicting payloads =
    (reached operation.items operation.completedItemIds payloads).filter
      fun payload => ¬Matches operation.items payload :=
  rfl

theorem copied_eq : operation.copied payloads =
    (reached operation.items operation.completedItemIds payloads).filter
      fun payload => Matches operation.items payload :=
  rfl

variable {operation payloads} {payload : TransferPayload}

theorem conflicting_skip (h : payload.itemId ∈ operation.completedItemIds) :
    operation.conflicting (payload :: payloads) = operation.conflicting payloads := by
  rw [conflicting_eq, reached_cons, if_pos h, conflicting_eq]

theorem copied_skip (h : payload.itemId ∈ operation.completedItemIds) :
    operation.copied (payload :: payloads) = operation.copied payloads := by
  rw [copied_eq, reached_cons, if_pos h, copied_eq]

theorem conflicting_differs (h : payload.itemId ∉ operation.completedItemIds)
    (hdiffers : ¬Matches operation.items payload) :
    operation.conflicting (payload :: payloads) = payload :: operation.conflicting payloads := by
  rw [conflicting_eq, reached_cons, if_neg h, if_neg hdiffers, List.filter_cons_of_pos (by simpa), conflicting_eq]

theorem copied_differs (h : payload.itemId ∉ operation.completedItemIds)
    (hdiffers : ¬Matches operation.items payload) :
    operation.copied (payload :: payloads) = operation.copied payloads := by
  rw [copied_eq, reached_cons, if_neg h, if_neg hdiffers, List.filter_cons_of_neg (by simpa), copied_eq]

theorem conflicting_matches (h : payload.itemId ∉ operation.completedItemIds)
    (hsame : Matches operation.items payload) (target : TargetVersion) :
    operation.conflicting (payload :: payloads) =
      (operation.addTarget payload.itemId target).conflicting payloads := by
  rw [conflicting_eq, reached_cons, if_neg h, if_pos hsame, List.filter_cons_of_neg (by simpa)]
  rfl

theorem copied_matches (h : payload.itemId ∉ operation.completedItemIds)
    (hsame : Matches operation.items payload) (target : TargetVersion) :
    operation.copied (payload :: payloads) =
      payload :: (operation.addTarget payload.itemId target).copied payloads := by
  rw [copied_eq, reached_cons, if_neg h, if_pos hsame, List.filter_cons_of_pos (by simpa)]
  rfl

end Operation

def Env.answers (env : Env) (asked n : Nat) : List (String × String) :=
  (List.range' asked n).filterMap fun k => (env.port k).toOption

theorem Due.matches_iff {operation : Operation} {payload : TransferPayload} {item : SyncItemInput}
    (due : Due operation payload item) :
    Matches operation.items payload ↔ payload.current = item.base := by
  rw [Matches, due.listed, Option.any_some, decide_eq_true_eq]

/-! ## The loop -/

section Sends

variable {env : Env} {context : SyncContext} {key : String} {operation : Operation}
  {drawn asked : Nat} {payloads : List TransferPayload} {entries : List Entry}
  {sent : List Transmission}

theorem Sends.setContext {stopped : Option SyncError}
    (sends : Sends prim env context key operation drawn asked payloads entries sent stopped)
    (context' : SyncContext) :
    Sends prim env context key { operation with context := context' } drawn asked payloads entries
      sent stopped := by
  have hdue : ∀ {operation payload item}, Due operation payload item →
      Due { operation with context := context' } payload item :=
    fun due => ⟨due.pending, due.listed, due.dependencies⟩
  induction sends with
  | done => exact .done
  | skipped completed rest ih => exact .skipped completed ih
  | denied pending blocked =>
    exact .denied pending fun item due => blocked item ⟨due.pending, due.listed, due.dependencies⟩
  | conflict due differs rest ih => exact .conflict (hdue due) differs ih
  | refused due same port => exact .refused (hdue due) same port
  | target due same port rest ih => exact .target (hdue due) same port ih

theorem Sends.conflictIds {stopped : Option SyncError}
    (sends : Sends prim env context key operation drawn asked payloads entries sent stopped) :
    (conflictsOf entries).map (·.conflictId) =
      (List.range' drawn (conflictsOf entries).length).map (prim.tokens.id "sync-conflict") := by
  induction sends with
  | done => rfl
  | skipped completed rest ih => exact ih
  | denied pending blocked => rfl
  | conflict due differs rest ih =>
    rw [conflictsOf, List.map_cons, ih, List.length_cons, List.range'_succ, List.map_cons]
    rfl
  | refused due same port => rfl
  | target due same port rest ih => exact ih

theorem Sends.claims
    (sends : Sends prim env context key operation drawn asked payloads entries sent none)
    (named : ∀ itemId item, operation.items.get? itemId = some item → item.itemId = itemId) :
    (conflictsOf entries).map (fun conflict =>
        (conflict.itemId, conflict.cloudVersionId, conflict.cloudDigest)) =
      (operation.conflicting payloads).map fun payload =>
        (payload.itemId, payload.currentCloudVersionId, payload.currentCloudDigest) := by
  generalize hstopped : none = stopped at sends
  induction sends with
  | done => rfl
  | denied pending blocked => cases hstopped
  | refused due same port => cases hstopped
  | skipped completed rest ih =>
    rw [Operation.conflicting_skip completed]
    exact ih named hstopped
  | conflict due differs rest ih =>
    rw [Operation.conflicting_differs due.pending (by rwa [due.matches_iff]), conflictsOf,
      List.map_cons, List.map_cons, newConflict, named _ _ due.listed]
    exact congrArg _ (ih named hstopped)
  | target due same port rest ih =>
    rw [Operation.conflicting_matches due.pending (due.matches_iff.2 same), ← named _ _ due.listed]
    exact ih named hstopped

theorem Sends.conflicts {stopped : Option SyncError}
    (sends : Sends prim env context key operation drawn asked payloads entries sent stopped) :
    ∀ conflict ∈ conflictsOf entries, ∃ payload ∈ payloads, ∃ item conflictId,
      operation.items.get? payload.itemId = some item ∧
        conflict = newConflict conflictId item payload := by
  induction sends with
  | done => simp [conflictsOf]
  | denied pending blocked => simp [conflictsOf]
  | refused due same port => simp [conflictsOf]
  | skipped completed rest ih =>
    intro conflict hconflict
    obtain ⟨payload, hpayload, hitem⟩ := ih conflict hconflict
    exact ⟨payload, List.mem_cons_of_mem _ hpayload, hitem⟩
  | conflict due differs rest ih =>
    intro conflict hconflict
    rcases List.mem_cons.1 hconflict with rfl | hconflict
    · exact ⟨_, List.mem_cons_self, _, _, due.listed, rfl⟩
    · obtain ⟨payload, hpayload, hitem⟩ := ih conflict hconflict
      exact ⟨payload, List.mem_cons_of_mem _ hpayload, hitem⟩
  | target due same port rest ih =>
    intro conflict hconflict
    obtain ⟨payload, hpayload, hitem⟩ := ih conflict hconflict
    exact ⟨payload, List.mem_cons_of_mem _ hpayload, hitem⟩

theorem Sends.targetIds
    (sends : Sends prim env context key operation drawn asked payloads entries sent none)
    (named : ∀ itemId item, operation.items.get? itemId = some item → item.itemId = itemId) :
    (targetsOf entries).map (fun target => (target.targetVersionId, target.targetObjectId)) =
      env.answers asked (operation.copied payloads).length := by
  generalize hstopped : none = stopped at sends
  induction sends with
  | done => rfl
  | denied pending blocked => cases hstopped
  | refused due same port => cases hstopped
  | skipped completed rest ih =>
    rw [Operation.copied_skip completed]
    exact ih named hstopped
  | conflict due differs rest ih =>
    rw [Operation.copied_differs due.pending (by rwa [due.matches_iff])]
    exact ih named hstopped
  | @target _ _ _ _ _ _ _ _ item ids due same port rest ih =>
    rw [Operation.copied_matches due.pending (due.matches_iff.2 same) (newTarget item "copy" ids),
      ← named _ _ due.listed, List.length_cons, Env.answers, List.range'_succ,
      List.filterMap_cons_some (by rw [port]; rfl), targetsOf, List.map_cons]
    exact congrArg _ (ih named hstopped)

theorem Sends.targets {stopped : Option SyncError}
    (sends : Sends prim env context key operation drawn asked payloads entries sent stopped) :
    ∀ target ∈ targetsOf entries, ∃ payload ∈ payloads, ∃ item ids,
      operation.items.get? payload.itemId = some item ∧ target = newTarget item "copy" ids := by
  induction sends with
  | done => simp [targetsOf]
  | denied pending blocked => simp [targetsOf]
  | refused due same port => simp [targetsOf]
  | skipped completed rest ih =>
    intro target htarget
    obtain ⟨payload, hpayload, hitem⟩ := ih target htarget
    exact ⟨payload, List.mem_cons_of_mem _ hpayload, hitem⟩
  | conflict due differs rest ih =>
    intro target htarget
    obtain ⟨payload, hpayload, hitem⟩ := ih target htarget
    exact ⟨payload, List.mem_cons_of_mem _ hpayload, hitem⟩
  | target due same port rest ih =>
    intro target htarget
    rcases List.mem_cons.1 htarget with rfl | htarget
    · exact ⟨_, List.mem_cons_self, _, _, due.listed, rfl⟩
    · obtain ⟨payload, hpayload, hitem⟩ := ih target htarget
      exact ⟨payload, List.mem_cons_of_mem _ hpayload, hitem⟩

theorem Sends.targetItems {stopped : Option SyncError}
    (sends : Sends prim env context key operation drawn asked payloads entries sent stopped)
    (named : ∀ itemId item, operation.items.get? itemId = some item → item.itemId = itemId) :
    ((targetsOf entries).map (·.itemId)).Nodup ∧
      ∀ target ∈ targetsOf entries, target.itemId ∉ operation.completedItemIds := by
  induction sends with
  | done => simp [targetsOf]
  | denied pending blocked => simp [targetsOf]
  | refused due same port => simp [targetsOf]
  | skipped completed rest ih => exact ih named
  | conflict due differs rest ih => exact ih named
  | target due same port rest ih =>
    obtain ⟨hnodup, hnew⟩ := ih named
    refine ⟨List.nodup_cons.2 ⟨fun hmem => ?_, hnodup⟩, List.forall_mem_cons.2 ⟨?_, ?_⟩⟩
    · obtain ⟨target, htarget, hsame⟩ := List.mem_map.1 hmem
      refine hnew target htarget ?_
      rw [hsame]
      exact Finset.mem_insert_self _ _
    · rw [newTarget, named _ _ due.listed]
      exact due.pending
    · intro target htarget hmem
      exact hnew target htarget (Finset.mem_insert_of_mem hmem)

end Sends

end DaonUser.Sync
