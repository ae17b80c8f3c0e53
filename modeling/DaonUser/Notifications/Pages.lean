import DaonUser.Lib.Pages
import DaonUser.Notifications.Cursors
import Mathlib.Order.WithBot

/-!
# Notifications: reading the list in pages

A cursor names the last notification of a page, and the next page starts after it in the list as it is then.
No notification is returned twice and none that matched throughout is missed (`Followed`), but the next page
is refused when that notification has left the filtered list, and when the MAC in the cursor has a byte that
reads as a dot (`pages_iff`).
-/

namespace DaonUser.Notifications

open Lib Audit

variable {n n' : Notification} {s s' : State} {q : Query} {p : Notification → Bool}
  {items : List Notification} {e : Error} {access : Access} {cursor : Option String}

variable {prim : Primitives} {nativeRoutes : List String}

/-! ## What becomes of a notification -/

def publishedKeys (calls : List Input) : List String :=
  calls.flatMap fun
    | .publish event candidates => candidates.map fun c => dedupeKey event c.principal
    | .markRead _ => []

/-- No two keys that the calls publish under have one short digest. -/
def CollisionFree (prim : Primitives) (keys : List String) : Prop :=
  ∀ k ∈ keys, ∀ k' ∈ keys, shortDigest prim k = shortDigest prim k' → k = k'

def Notification.Later (n n' : Notification) : Prop :=
  n' = n ∨ n.readAt = none ∧ ∃ now, n' = n.asRead now

theorem Notification.Later.trans {n'' : Notification} (h : n.Later n') (h' : n'.Later n'') :
    n.Later n'' := by
  rcases h with rfl | ⟨hunread, now, rfl⟩
  · exact h'
  · rcases h' with rfl | ⟨hread, -⟩
    · exact Or.inr ⟨hunread, now, rfl⟩
    · cases hread

/-- A notification stays, but for being read. -/
def Evolves (s s' : State) : Prop :=
  ∀ id n, s.repository.notifications.get? id = some n →
    ∃ n', s'.repository.notifications.get? id = some n' ∧ n.Later n'

theorem Evolves.refl (s : State) : Evolves s s := fun _ n h => ⟨n, h, Or.inl rfl⟩

theorem Evolves.trans {s'' : State} (h : Evolves s s') (h' : Evolves s' s'') :
    Evolves s s'' := by
  intro id n hn
  obtain ⟨n', hn', hlater⟩ := h id n hn
  obtain ⟨n'', hn'', hlater'⟩ := h' id n' hn'
  exact ⟨n'', hn'', hlater.trans hlater'⟩

/-- Every notification is stored under the digest of its key, which is one of these and is known. -/
structure Shelved (prim : Primitives) (keys : List String) (s : State) : Prop where
  tracked : Tracked s
  ids : ∀ id n, s.repository.notifications.get? id = some n →
    id = "notification-" ++ shortDigest prim n.dedupeKey
  keys : ∀ id n, s.repository.notifications.get? id = some n → n.dedupeKey ∈ keys

variable {keys : List String} {event : NotificationEvent}

theorem Shelved.asked {c : Candidate} {now : DateTime} (h : Shelved prim keys s)
    (hkeys : CollisionFree prim keys) (hkey : dedupeKey event c.principal ∈ keys)
    (hfresh : Fresh prim event s c now) :
    Shelved prim keys (s.asked prim event c now) ∧ Evolves s (s.asked prim event c now) := by
  have hnone : s.repository.notifications.get?
      (newNotification prim event c.principal now).notificationId = none := by
    by_contra hstored
    obtain ⟨n, hn⟩ := Option.ne_none_iff_exists'.1 hstored
    have hdigest := String.append_right_inj _ |>.1 (h.ids _ n hn)
    have hsame := hkeys _ hkey _ (h.keys _ n hn) hdigest
    exact hfresh.fresh (hsame ▸ h.tracked.keys _ n hn)
  refine ⟨⟨h.tracked.asked hfresh, fun id n hn => ?_, fun id n hn => ?_⟩, fun id n hn => ?_⟩
  · rw [get?_asked hfresh] at hn
    rcases Dict.of_get?_set hn with hold | ⟨rfl, rfl⟩
    · exact h.ids id n hold
    · rfl
  · rw [get?_asked hfresh] at hn
    rcases Dict.of_get?_set hn with hold | ⟨rfl, rfl⟩
    · exact h.keys id n hold
    · exact hkey
  · rw [get?_asked hfresh]
    refine ⟨n, ?_, Or.inl rfl⟩
    rw [Dict.get?_set_of_ne]
    · exact hn
    · rintro rfl
      rw [hnone] at hn
      cases hn

theorem shelved_publishAll (h : Shelved prim keys s) (hkeys : CollisionFree prim keys)
    {cs : List Candidate} (hcs : ∀ c ∈ cs, dedupeKey event c.principal ∈ keys) :
    Shelved prim keys (publishAll prim event cs s).2 ∧ Evolves s (publishAll prim event cs s).2 := by
  induction cs generalizing s with
  | nil => exact ⟨h, .refl s⟩
  | cons c cs ih =>
    rw [List.forall_mem_cons] at hcs
    cases publishTo_turn prim event s c with
    | skipped _ turn =>
      rw [publishAll_cons turn]
      exact ih h hcs.2
    | untimed _ _ turn =>
      rw [publishAll_cons_error turn]
      exact ⟨h, .refl s⟩
    | known _ _ _ turn =>
      rw [publishAll_cons turn]
      exact ih h hcs.2
    | accepted hfresh _ happended _ turn =>
      rw [publishAll_cons turn]
      obtain ⟨hasked, hevolves⟩ := h.asked hkeys hcs.1 hfresh
      obtain ⟨hrest, hevolves'⟩ :=
        ih (s := State.withEvent _ _) ⟨h.tracked.accepted hfresh happended, hasked.ids, hasked.keys⟩
          hcs.2
      exact ⟨hrest, hevolves.trans hevolves'⟩
    | refused hfresh _ turn =>
      rw [publishAll_cons_error turn]
      exact h.asked hkeys hcs.1 hfresh

theorem Shelved.marked {r : MarkRead} (h : Shelved prim keys s)
    (hmarked : Marked prim r s s') : Shelved prim keys s' ∧ Evolves s s' := by
  have htracked := hmarked.tracked h.tracked
  obtain ⟨item, now, event, eventId, fingerprint, hitem, hunread, -, rfl⟩ := hmarked
  refine ⟨⟨htracked, fun id n hn => ?_, fun id n hn => ?_⟩, fun id n hn => ?_⟩
  · rcases Dict.of_get?_set hn with hold | ⟨rfl, rfl⟩
    · exact h.ids id n hold
    · exact h.ids _ item hitem
  · rcases Dict.of_get?_set hn with hold | ⟨rfl, rfl⟩
    · exact h.keys id n hold
    · exact h.keys _ item hitem
  · by_cases hid : item.notificationId = id
    · subst hid
      obtain rfl := Option.some.inj (hitem.symm.trans hn)
      exact ⟨item.asRead now, Dict.get?_set_self _ _ _, Or.inr ⟨hunread, now, rfl⟩⟩
    · exact ⟨n, (Dict.get?_set_of_ne _ hid _).trans hn, Or.inl rfl⟩

variable (nativeRoutes) in
theorem shelved_next (h : Shelved prim keys s) (hkeys : CollisionFree prim keys)
    {input : Input} (hinput : ∀ k ∈ publishedKeys [input], k ∈ keys) :
    Shelved prim keys ((machine prim nativeRoutes).next s input) ∧
      Evolves s ((machine prim nativeRoutes).next s input) := by
  cases input with
  | publish event candidates =>
    change Shelved prim keys (publish prim nativeRoutes event candidates s).2 ∧
      Evolves s (publish prim nativeRoutes event candidates s).2
    rcases publish_cases prim event nativeRoutes candidates s with ⟨-, hstep⟩ | ⟨e, -, hstep⟩
    · rw [hstep]
      refine shelved_publishAll h hkeys fun c hc => hinput _ ?_
      simp only [publishedKeys, List.flatMap_cons, List.flatMap_nil, List.append_nil]
      exact List.mem_map.2 ⟨c, hc, rfl⟩
    · rw [hstep]
      exact ⟨h, .refl s⟩
  | markRead r =>
    rcases markRead_cases prim nativeRoutes h.tracked r with hsame | ⟨-, hmarked⟩
    · rw [hsame]
      exact ⟨h, .refl s⟩
    · exact h.marked hmarked

variable (nativeRoutes) in
theorem shelved_runFrom (h : Shelved prim keys s) (hkeys : CollisionFree prim keys)
    {calls : List Input} (hcalls : ∀ k ∈ publishedKeys calls, k ∈ keys) :
    Shelved prim keys ((machine prim nativeRoutes).runFrom s calls) ∧
      Evolves s ((machine prim nativeRoutes).runFrom s calls) := by
  induction calls generalizing s with
  | nil => exact ⟨h, .refl s⟩
  | cons input calls ih =>
    have hsplit : publishedKeys (input :: calls) = publishedKeys [input] ++ publishedKeys calls := by
      simp [publishedKeys]
    rw [hsplit] at hcalls
    obtain ⟨hnext, hevolves⟩ := shelved_next nativeRoutes h hkeys
      fun k hk => hcalls k (List.mem_append_left _ hk)
    obtain ⟨hrest, hevolves'⟩ := ih hnext fun k hk => hcalls k (List.mem_append_right _ hk)
    exact ⟨hrest, hevolves.trans hevolves'⟩

theorem shelved_init : Shelved prim keys (machine prim nativeRoutes).init :=
  ⟨tracked_init, by simp [machine, Repository.empty], by simp [machine, Repository.empty]⟩

theorem Shelved.isSafeId (h : Shelved prim keys s) {id : String}
    (hn : s.repository.notifications.get? id = some n) : isSafeId id = true := by
  rw [h.ids id n hn, DaonUser.isSafeId]
  have hdigest := prim.digest n.dedupeKey
  rw [isDigest, Bool.and_eq_true, List.all_eq_true, decide_eq_true_eq] at hdigest
  obtain ⟨hhex, hlength⟩ := hdigest
  have hidChars : ∀ c ∈ "0123456789abcdef".toList, isIdChar c = true :=
    List.all_eq_true.1 (by decide)
  have htoList : ("notification-" ++ shortDigest prim n.dedupeKey).toList =
      'n' :: ("otification-".toList ++ (prim.sha256 n.dedupeKey).toList.take 24) := by
    rw [String.toList_append, shortDigest, String.toList_ofList]
    simp
  rw [htoList]
  simp only [Bool.and_eq_true, decide_eq_true_eq, List.all_append, List.length_append,
    List.length_take]
  refine ⟨⟨by decide, by decide, ?_⟩, ?_⟩
  · rw [List.all_eq_true]
    intro c hc
    exact hidChars c (List.contains_iff_mem.1 (hhex c (List.mem_of_mem_take hc)))
  · have hstart : "otification-".toList.length = 12 := by decide
    omega

def Query.condition (prim : Primitives) (q : Query) : Except Error (Notification → Bool) := do
  let byFilter ← filterBy q.filters
  let bySearch ← searchBy prim q.search
  return fun n => bySearch n && byFilter n

def Query.list (q : Query) (p : Notification → Bool) (r : Repository) : List Notification :=
  (sorted (r.notificationsFor q.principal.tenantId q.principal.userId)).filter p

/-- The notification is in the filtered list. -/
def Query.Matches (prim : Primitives) (q : Query) (n : Notification) : Prop :=
  n.tenantId = q.principal.tenantId ∧ n.recipientId = q.principal.userId ∧
    ∃ p, q.condition prim = .ok p ∧ p n = true

def pageKey (n : Notification) : WithBot (Lex (List Nat × String))ᵒᵈ := n.sortKey

theorem pageKey_inj {m : Notification} (h : pageKey n = pageKey m) :
    n.notificationId = m.notificationId := by
  have hkeys := WithBot.coe_injective h
  exact congrArg (fun k => (ofLex (OrderDual.ofDual k)).2) hkeys

theorem mem_list (h : Tracked s) : n ∈ q.list p s.repository ↔
      s.repository.notifications.get? n.notificationId = some n ∧
        n.tenantId = q.principal.tenantId ∧ n.recipientId = q.principal.userId ∧ p n = true := by
  rw [Query.list, List.mem_filter, sorted, List.mem_insertionSort, Repository.notificationsFor,
    List.mem_filter, Dict.mem_values_iff, Bool.and_eq_true, decide_eq_true_eq, decide_eq_true_eq]
  constructor
  · rintro ⟨⟨⟨id, hid⟩, htenant, hrecipient⟩, hp⟩
    obtain rfl := h.ids id n hid
    exact ⟨hid, htenant, hrecipient, hp⟩
  · rintro ⟨hid, htenant, hrecipient, hp⟩
    exact ⟨⟨⟨_, hid⟩, htenant, hrecipient⟩, hp⟩

theorem list_sorted (h : Tracked s) (q : Query) (p : Notification → Bool) :
    (q.list p s.repository).Pairwise fun n m => pageKey n < pageKey m := by
  have hids : (s.repository.notifications.values.map (·.notificationId)).Nodup := by
    have hkeys : s.repository.notifications.values.map (·.notificationId) =
        s.repository.notifications.entries.map Prod.fst := by
      rw [Dict.values, List.map_map]
      refine List.map_congr_left fun e he => ?_
      exact h.ids e.1 e.2 (Dict.mem_entries_iff.1 he)
    rw [hkeys]
    exact s.repository.notifications.nodup
  have hsorted : (sorted (s.repository.notificationsFor q.principal.tenantId
      q.principal.userId)).Pairwise fun n m => n.sortKey ≤ m.sortKey := by
    have : Std.Total fun n m : Notification => n.sortKey ≤ m.sortKey :=
      ⟨fun n m => le_total n.sortKey m.sortKey⟩
    have : IsTrans Notification fun n m => n.sortKey ≤ m.sortKey := ⟨fun _ _ _ => le_trans⟩
    exact List.pairwise_insertionSort _ _
  have hdistinct : (sorted (s.repository.notificationsFor q.principal.tenantId
      q.principal.userId)).Pairwise fun n m => n.notificationId ≠ m.notificationId := by
    refine List.pairwise_map.1 (((List.perm_insertionSort _ _).map _).nodup_iff.2 ?_)
    exact hids.sublist (List.filter_sublist.map _)
  refine ((hsorted.and hdistinct).imp ?_).filter _
  rintro n m ⟨hle, hne⟩
  refine lt_of_le_of_ne (WithBot.coe_le_coe.2 hle) fun hsame => hne (pageKey_inj hsame)

/-! ## One page -/

abbrev remaining (k : WithBot (Lex (List Nat × String))ᵒᵈ) (items : List Notification) :
    List Notification :=
  Pages.after pageKey (fun _ => true) k items

abbrev nextKey (limit : Nat) (k : WithBot (Lex (List Nat × String))ᵒᵈ) (items : List Notification) :
    Option (WithBot (Lex (List Nat × String))ᵒᵈ) :=
  Pages.next pageKey (fun _ => true) limit k items

theorem remaining_bot (items : List Notification) : remaining ⊥ items = items := by
  rw [remaining, Pages.after, List.filter_eq_self]
  intro n _
  rw [Bool.and_true, decide_eq_true_eq]
  exact WithBot.bot_lt_coe _

theorem drop_findIdx (hsorted : items.Pairwise fun n m => pageKey n < pageKey m) {id : String} {index : Nat}
    (h : items.findIdx? (fun n => n.notificationId = id) = some index) :
    ∃ n ∈ items, n.notificationId = id ∧ items.drop (index + 1) = remaining (pageKey n) items := by
  obtain ⟨hlt, hid, -⟩ := List.findIdx?_eq_some_iff_getElem.1 h
  have hlast : (items.take (index + 1)).getLast? = some (items[index]) := by
    rw [List.getLast?_take, if_neg (by omega)]
    simp [List.getElem?_eq_getElem hlt]
  refine ⟨items[index], List.getElem_mem hlt, by simpa using hid, ?_⟩
  rw [← Pages.filter_getLast hsorted hlast, remaining, Pages.after]
  simp

def Starts (prim : Primitives) (cursor : Option String) (items : List Notification)
    (k : WithBot (Lex (List Nat × String))ᵒᵈ) : Prop :=
  match cursor with
  | none => k = ⊥
  | some c => ∃ n ∈ items, decodeCursor prim c = .ok n.notificationId ∧ k = pageKey n

theorem decodeCursor_error {cursor : String} (h : decodeCursor prim cursor = .error e) :
    e = .notification { code := "INVALID_CURSOR" } := by
  unfold decodeCursor at h
  split at h
  · exact (Except.error.inj h).symm
  · split at h
    · exact (Except.error.inj h).symm
    · split at h
      · exact (Except.error.inj h).symm
      · split at h
        · exact (Except.error.inj h).symm
        · simp only at h
          split at h
          · exact (Except.error.inj h).symm
          · cases h

variable (prim) in
theorem startOf_cases (cursor : Option String) (hsorted : items.Pairwise fun n m => pageKey n < pageKey m) :
    (∃ k start, Starts prim cursor items k ∧ startOf prim cursor items = .ok start ∧
      items.drop start = remaining k items) ∨
    (¬∃ k, Starts prim cursor items k) ∧
      startOf prim cursor items = fail "INVALID_CURSOR" := by
  cases cursor with
  | none => exact Or.inl ⟨⊥, 0, rfl, rfl, (remaining_bot items).symm⟩
  | some c =>
    cases hdecode : decodeCursor prim c with
    | error e =>
      obtain rfl := decodeCursor_error hdecode
      refine Or.inr ⟨?_, ?_⟩
      · rintro ⟨k, n, -, hn, -⟩
        rw [hdecode] at hn
        cases hn
      · rw [startOf, hdecode]
        rfl
    | ok id =>
      cases hindex : items.findIdx? fun n => n.notificationId = id with
      | none =>
        refine Or.inr ⟨?_, ?_⟩
        · rintro ⟨k, n, hmem, hn, -⟩
          rw [hdecode] at hn
          have hnone := List.findIdx?_eq_none_iff.1 hindex n hmem
          simp [Except.ok.inj hn] at hnone
        · rw [startOf, hdecode]
          dsimp only [bind, Except.bind]
          rw [hindex]
      | some index =>
        obtain ⟨n, hmem, hid, hdrop⟩ := drop_findIdx hsorted hindex
        refine Or.inl ⟨pageKey n, index + 1, ⟨n, hmem, by rw [hdecode, hid], rfl⟩, ?_, hdrop⟩
        rw [startOf, hdecode]
        dsimp only [bind, Except.bind]
        rw [hindex]
        rfl

def invalidCursor : Error := .notification { code := "INVALID_CURSOR" }

/-- The checks of a call before it looks at its cursor pass, with this condition. -/
structure Reaches (prim : Primitives) (nativeRoutes : List String) (q : Query) (access : Access)
    (r : Repository) (p : Notification → Bool) : Prop where
  limit : 1 ≤ q.limit ∧ q.limit ≤ 200
  visible : (r.notificationsFor q.principal.tenantId q.principal.userId).forM
    (Notifications.visible prim nativeRoutes access) = .ok ⟨⟩
  condition : q.condition prim = .ok p

theorem fail_ne {α : Type} {code : String} {httpStatus : Nat} (h : code ≠ "INVALID_CURSOR")
    (hfail : (fail code httpStatus : Except Error α) = .error e) : e ≠ invalidCursor := by
  obtain rfl := Except.error.inj hfail
  intro hsame
  exact h (congrArg NotificationError.code (Error.notification.inj hsame))

theorem authorize_error {denial : Option Nat} (h : authorize denial = .error e) :
    e ≠ invalidCursor := by
  unfold authorize at h
  split at h
  · cases h
  · split at h
    · exact fail_ne (by decide) h
    · split at h
      · exact fail_ne (by decide) h
      · exact fail_ne (by decide) h

theorem safeDeepLink_error {value : String}
    (h : safeDeepLink prim nativeRoutes value = .error e) : e ≠ invalidCursor := by
  unfold safeDeepLink at h
  split at h
  · exact fail_ne (by decide) h
  · split at h
    · cases h
    · split at h
      · obtain rfl := Except.error.inj h
        exact fun hsame => by cases hsame
      · split at h
        · simp only at h
          split at h
          · exact fail_ne (by decide) h
          · cases h
        · split at h
          · exact fail_ne (by decide) h
          · split at h
            · exact fail_ne (by decide) h
            · cases h

theorem plainText_error {value : String} {maximum : Nat}
    (h : plainText value maximum = .error e) : e ≠ invalidCursor := by
  unfold plainText at h
  split at h
  · exact fail_ne (by decide) h
  · split at h
    · exact fail_ne (by decide) h
    · cases h

theorem bind_eq_error {ε α β : Type} {x : Except ε α} {f : α → Except ε β} {e : ε}
    (h : x >>= f = .error e) : x = .error e ∨ ∃ a, x = .ok a ∧ f a = .error e := by
  cases x with
  | error e' => exact Or.inl (by simpa [bind, Except.bind] using h)
  | ok a => exact Or.inr ⟨a, rfl, h⟩

theorem visible_error
    (h : items.forM (visible prim nativeRoutes access) = .error e) : e ≠ invalidCursor := by
  induction items with
  | nil => cases h
  | cons n items ih =>
    rw [List.forM_eq_forM, List.forM_cons] at h
    rcases bind_eq_error h with h | ⟨-, -, h⟩
    · rcases bind_eq_error h with h | ⟨-, -, h⟩
      · exact authorize_error h
      · exact safeDeepLink_error h
    · exact ih h

theorem condition_error (h : q.condition prim = .error e) :
    e ≠ invalidCursor := by
  rcases bind_eq_error h with h | ⟨byFilter, -, h⟩
  · unfold filterBy at h
    split at h
    · cases h
    · split at h
      · cases h
      · split at h
        · cases h
        · split at h
          · cases h
          · exact fail_ne (by decide) h
    · exact fail_ne (by decide) h
  · rcases bind_eq_error h with h | ⟨bySearch, -, h⟩
    · unfold searchBy at h
      split at h
      · cases h
      · rcases bind_eq_error h with h | ⟨term, -, h⟩
        · exact plainText_error h
        · cases h
    · cases h

/-- What a call of `list_notifications` ends in. -/
inductive Listed (prim : Primitives) (nativeRoutes : List String) (q : Query)
    (cursor : Option String) (access : Access) (r : Repository) :
    Except Error NotificationPage → Prop
  | refused {e : Error} (other : e ≠ invalidCursor)
      (starts : ∀ p, Reaches prim nativeRoutes q access r p →
        ∃ k, Starts prim cursor (q.list p r) k) :
      Listed prim nativeRoutes q cursor access r (.error e)
  | lost {p : Notification → Bool} (reaches : Reaches prim nativeRoutes q access r p)
      (lost : ¬∃ k, Starts prim cursor (q.list p r) k) :
      Listed prim nativeRoutes q cursor access r (.error invalidCursor)
  | page {p : Notification → Bool} (reaches : Reaches prim nativeRoutes q access r p)
      {k : WithBot (Lex (List Nat × String))ᵒᵈ} (starts : Starts prim cursor (q.list p r) k)
      (unreadCount : Nat) :
      Listed prim nativeRoutes q cursor access r (.ok
        { items := (remaining k (q.list p r)).take q.limit.toNat
          nextCursor :=
            if q.limit.toNat < (remaining k (q.list p r)).length then
              ((remaining k (q.list p r)).take q.limit.toNat).getLast?.map
                (encodeCursor prim ·.notificationId)
            else none
          unreadCount })

variable (prim nativeRoutes) in
theorem visibleNotifications_cases (access : Access) (principal : IdentityPrincipal) (r : Repository) :
    ((r.notificationsFor principal.tenantId principal.userId).forM (visible prim nativeRoutes access) =
        .ok ⟨⟩ ∧ visibleNotifications prim nativeRoutes access principal r =
        .ok (sorted (r.notificationsFor principal.tenantId principal.userId))) ∨
      ∃ e, e ≠ invalidCursor ∧
        visibleNotifications prim nativeRoutes access principal r = .error e ∧
        (r.notificationsFor principal.tenantId principal.userId).forM
          (visible prim nativeRoutes access) = .error e := by
  cases hvisible : (r.notificationsFor principal.tenantId principal.userId).forM
    (visible prim nativeRoutes access) with
  | error e =>
    refine Or.inr ⟨e, visible_error hvisible, ?_, rfl⟩
    simp only [visibleNotifications, hvisible]
    rfl
  | ok _ =>
    refine Or.inl ⟨rfl, ?_⟩
    simp only [visibleNotifications, hvisible]
    rfl

variable (prim nativeRoutes) in
theorem list_listed (h : Tracked s) (q : Query) (cursor : Option String) (access recount : Access) :
    Listed prim nativeRoutes q cursor access s.repository
      (listNotifications prim nativeRoutes q cursor access recount s.repository) := by
  unfold listNotifications
  by_cases hlimit : 1 ≤ q.limit ∧ q.limit ≤ 200
  · rw [if_neg (not_not.2 hlimit)]
    rcases visibleNotifications_cases prim nativeRoutes access q.principal s.repository with
      ⟨hvisible, hitems⟩ | ⟨e, hother, hitems, hhidden⟩
    · rw [hitems]
      cases hfilter : filterBy q.filters with
      | error e =>
        have hcondition : q.condition prim = .error e := by
          simp only [Query.condition, hfilter]
          rfl
        refine .refused (condition_error hcondition) fun p hreaches => ?_
        rw [hreaches.condition] at hcondition
        cases hcondition
      | ok byFilter =>
        cases hsearch : searchBy prim q.search with
        | error e =>
          have hcondition : q.condition prim = .error e := by
            simp only [Query.condition, hfilter, hsearch]
            rfl
          refine .refused (condition_error hcondition) fun p hreaches => ?_
          rw [hreaches.condition] at hcondition
          cases hcondition
        | ok bySearch =>
          have hcondition : q.condition prim = .ok fun n => bySearch n && byFilter n := by
            simp only [Query.condition, hfilter, hsearch]
            rfl
          have hreaches : Reaches prim nativeRoutes q access s.repository _ :=
            ⟨hlimit, hvisible, hcondition⟩
          have hlist : ((sorted (s.repository.notificationsFor q.principal.tenantId
              q.principal.userId)).filter byFilter).filter bySearch =
                q.list (fun n => bySearch n && byFilter n) s.repository := by
            rw [Query.list, List.filter_filter]
          change Listed prim nativeRoutes q cursor access s.repository
            (startOf prim cursor (((sorted (s.repository.notificationsFor q.principal.tenantId
              q.principal.userId)).filter byFilter).filter bySearch) >>= _)
          rw [hlist]
          generalize (fun n : Notification => bySearch n && byFilter n) = p at hreaches ⊢
          rcases startOf_cases prim cursor (list_sorted h q p) with
            ⟨k, start, hstarts, hstart, hdrop⟩ | ⟨hlost, hstart⟩
          · have hlength : start + q.limit.toNat < (q.list p s.repository).length ↔
                q.limit.toNat < (remaining k (q.list p s.repository)).length := by
              rw [← hdrop, List.length_drop]
              omega
            rw [hstart]
            rcases visibleNotifications_cases prim nativeRoutes recount q.principal s.repository with
              ⟨-, hcounted⟩ | ⟨e, hother, hcounted, -⟩
            · have hpage := Listed.page hreaches hstarts
                ((sorted (s.repository.notificationsFor q.principal.tenantId
                  q.principal.userId)).countP (·.readAt = none))
              rw [← hdrop] at hpage hlength
              simp only [← hlength] at hpage
              rw [hcounted]
              exact hpage
            · rw [hcounted]
              refine .refused hother fun p' hreaches' => ?_
              obtain rfl := Except.ok.inj (hreaches.condition.symm.trans hreaches'.condition)
              exact ⟨k, hstarts⟩
          · rw [hstart]
            exact .lost hreaches hlost
    · rw [hitems]
      refine .refused hother fun p hreaches => ?_
      rw [hreaches.visible] at hhidden
      cases hhidden
  · rw [if_pos hlimit]
    exact .refused (fail_ne (α := PUnit) (by decide) rfl) fun p hreaches =>
      absurd hreaches.limit hlimit

/-! ## Page after page -/

/-- A page that is read, with what the authorization service answers, and the calls before the next. -/
structure Visit where
  access : Access
  recount : Access
  calls : List Input

/-- What following the cursors has returned, the stores that the pages were read from, the last one, and
how it ended: with a page that has no cursor, with an error, or with no visits left. -/
structure Walked where
  items : List Notification
  stores : List State
  final : State
  error : Option Error
  finished : Bool

def follow (prim : Primitives) (nativeRoutes : List String) (q : Query) :
    State → Option String → List Visit → Walked
  | s, _, [] => ⟨[], [], s, none, false⟩
  | s, cursor, v :: vs =>
    match listNotifications prim nativeRoutes q cursor v.access v.recount s.repository with
    | .error e => ⟨[], [s], s, some e, false⟩
    | .ok page =>
      match page.nextCursor with
      | none => ⟨page.items, [s], s, none, true⟩
      | some next =>
        let rest := follow prim nativeRoutes q
          ((machine prim nativeRoutes).runFrom s v.calls) (some next) vs
        { rest with items := page.items ++ rest.items, stores := s :: rest.stores }

/-- The cursor names a stored notification, its MAC has no dot, and where only unread ones are listed the
notification is still unread. -/
def CursorHolds (prim : Primitives) (q : Query) (s : State) (cursor : Option String) : Prop :=
  ∀ c, cursor = some c → ∃ n, c = encodeCursor prim n.notificationId ∧
    s.repository.notifications.get? n.notificationId = some n ∧
    '.'.toNat ∉ mac prim n.notificationId ∧
    (q.filters = [("state", "unread")] → n.readAt = none)

/-- Whenever a page is read the cursor that is sent holds, if the call gets as far as looking at it. -/
def CursorsHold (prim : Primitives) (nativeRoutes : List String) (q : Query) :
    State → Option String → List Visit → Prop
  | _, _, [] => True
  | s, cursor, v :: vs =>
    ((∃ p, Reaches prim nativeRoutes q v.access s.repository p) → CursorHolds prim q s cursor) ∧
    ∀ page next, listNotifications prim nativeRoutes q cursor v.access v.recount s.repository =
      .ok page → page.nextCursor = some next →
        CursorsHold prim nativeRoutes q ((machine prim nativeRoutes).runFrom s v.calls) (some next) vs

theorem Notification.Later.pageKey (h : n.Later n') :
    Notifications.pageKey n' = Notifications.pageKey n := by
  rcases h with rfl | ⟨-, now, rfl⟩
  · rfl
  · rfl

theorem Notification.Later.id (h : n.Later n') :
    n'.notificationId = n.notificationId := by
  rcases h with rfl | ⟨-, now, rfl⟩
  · rfl
  · rfl

theorem filterBy_later {filters : List (String × String)} {f : Notification → Bool}
    (hf : filterBy filters = .ok f) (hn : f n = true) (h : n.Later n') :
    f n' = true ↔ (filters = [("state", "unread")] → n'.readAt = none) := by
  unfold filterBy at hf
  split at hf
  · obtain rfl := Except.ok.inj hf
    exact ⟨fun _ hfilters => by simp at hfilters, fun _ => rfl⟩
  · next key value =>
    split at hf
    · next hstate =>
      subst hstate
      obtain rfl := Except.ok.inj hf
      rw [decide_eq_true_eq] at hn ⊢
      subst hn
      rcases h with rfl | ⟨hunread, now, rfl⟩
      · cases hread : n'.readAt <;> simp [Notification.readState, ReadState.value, hread]
      · simp [Notification.readState, ReadState.value, Notification.asRead, hunread]
    · next hstate =>
      have hother : [(key, value)] ≠ [("state", "unread")] := by
        simp only [ne_eq, List.cons.injEq, Prod.mk.injEq, and_true, not_and]
        exact fun hkey => absurd hkey hstate
      have hkept : f n' = f n := by
        rcases h with rfl | ⟨-, now, rfl⟩
        · rfl
        · split at hf
          · obtain rfl := Except.ok.inj hf
            rfl
          · split at hf
            · obtain rfl := Except.ok.inj hf
              rfl
            · cases hf
      exact iff_of_true (hkept.trans hn) fun hfilters => absurd hfilters hother
  · cases hf

theorem searchBy_later {search : Option String} {g : Notification → Bool}
    (hg : searchBy prim search = .ok g) (h : n.Later n') : g n' = g n := by
  rcases h with rfl | ⟨-, now, rfl⟩
  · rfl
  · unfold searchBy at hg
    split at hg
    · obtain rfl := Except.ok.inj hg
      rfl
    · obtain ⟨term, -, hg⟩ := Call.bind_eq_ok.1 hg
      obtain rfl := Except.ok.inj hg
      rfl

theorem condition_eq_ok (h : q.condition prim = .ok p) :
    ∃ f g, filterBy q.filters = .ok f ∧ searchBy prim q.search = .ok g ∧
      p = fun n => g n && f n := by
  obtain ⟨f, hf, h⟩ := Call.bind_eq_ok.1 h
  obtain ⟨g, hg, h⟩ := Call.bind_eq_ok.1 h
  exact ⟨f, g, hf, hg, (Except.ok.inj h).symm⟩

theorem matches_later (hn : q.Matches prim n) (h : n.Later n') :
    q.Matches prim n' ↔ (q.filters = [("state", "unread")] → n'.readAt = none) := by
  obtain ⟨htenant, hrecipient, p, hp, hmatches⟩ := hn
  obtain ⟨f, g, hf, hg, rfl⟩ := condition_eq_ok hp
  rw [Bool.and_eq_true] at hmatches
  have hsame : n'.tenantId = n.tenantId ∧ n'.recipientId = n.recipientId := by
    rcases h with rfl | ⟨-, now, rfl⟩
    · exact ⟨rfl, rfl⟩
    · exact ⟨rfl, rfl⟩
  rw [← filterBy_later hf hmatches.2 h]
  constructor
  · rintro ⟨-, -, p', hp', hmatches'⟩
    rw [hp] at hp'
    obtain rfl := Except.ok.inj hp'
    rw [Bool.and_eq_true] at hmatches'
    exact hmatches'.2
  · intro hmatches'
    refine ⟨hsame.1.trans htenant, hsame.2.trans hrecipient, _, hp, ?_⟩
    rw [searchBy_later hg h, hmatches.1, hmatches']
    rfl

/-- Where the pages have come to: the cursor is that of a notification that matched when its page was
read. -/
def Position (prim : Primitives) (q : Query) (s : State) (cursor : Option String)
    (k : WithBot (Lex (List Nat × String))ᵒᵈ) : Prop :=
  match cursor with
  | none => k = ⊥
  | some c => ∃ n n', c = encodeCursor prim n.notificationId ∧ k = pageKey n ∧ q.Matches prim n ∧
      s.repository.notifications.get? n.notificationId = some n' ∧ n.Later n'

/-- A call that looks at the cursor finds its notification exactly when the cursor holds, and then goes on
after it. -/
theorem starts_iff {k : WithBot (Lex (List Nat × String))ᵒᵈ} (h : Shelved prim keys s)
    (hposition : Position prim q s cursor k)
    (hreaches : Reaches prim nativeRoutes q access s.repository p)
    (k' : WithBot (Lex (List Nat × String))ᵒᵈ) :
    Starts prim cursor (q.list p s.repository) k' ↔ k' = k ∧ CursorHolds prim q s cursor := by
  cases cursor with
  | none =>
    obtain rfl : k = ⊥ := hposition
    exact ⟨fun hk => ⟨hk, by rintro c ⟨⟩⟩, fun hk => hk.1⟩
  | some c =>
    obtain ⟨n, n', rfl, rfl, hmatched, hn', hlater⟩ := hposition
    have hsafe := h.isSafeId hn'
    have hid := hlater.id
    constructor
    · rintro ⟨m, hm, hdecode, rfl⟩
      obtain ⟨hm, htenant, hrecipient, hp⟩ := (mem_list h.tracked).1 hm
      by_cases hdot : '.'.toNat ∈ mac prim n.notificationId
      · rw [decodeCursor_of_dot hsafe hdot] at hdecode
        cases hdecode
      · rw [decodeCursor_encodeCursor hsafe hdot] at hdecode
        have hsame : n.notificationId = m.notificationId := Except.ok.inj hdecode
        rw [← hsame, hn'] at hm
        obtain rfl := Option.some.inj hm
        refine ⟨hlater.pageKey, ?_⟩
        rintro c ⟨⟩
        refine ⟨n', by rw [hid], by rw [hid, hn'], by rwa [hid], ?_⟩
        exact (matches_later hmatched hlater).1 ⟨htenant, hrecipient, p, hreaches.condition, hp⟩
    · rintro ⟨rfl, hholds⟩
      obtain ⟨m, hcursor, hm, hdot, hunread⟩ := hholds _ rfl
      have hdecode := decodeCursor_encodeCursor (h.isSafeId hm) hdot
      rw [← hcursor] at hdecode
      have hdot' : '.'.toNat ∉ mac prim n.notificationId := by
        intro hdot'
        rw [decodeCursor_of_dot hsafe hdot'] at hdecode
        cases hdecode
      rw [decodeCursor_encodeCursor hsafe hdot'] at hdecode
      have hsame : n.notificationId = m.notificationId := Except.ok.inj hdecode
      rw [← hsame, hn'] at hm
      obtain rfl := Option.some.inj hm
      obtain ⟨htenant, hrecipient, p', hp', hmatches⟩ := (matches_later hmatched hlater).2 hunread
      rw [hreaches.condition] at hp'
      obtain rfl := Except.ok.inj hp'
      refine ⟨n', (mem_list h.tracked).2 ⟨by rw [hid, hn'], htenant, hrecipient, hmatches⟩, ?_,
        hlater.pageKey.symm⟩
      rw [decodeCursor_encodeCursor hsafe hdot', hid]

structure Followed (prim : Primitives) (q : Query) (s : State)
    (k : WithBot (Lex (List Nat × String))ᵒᵈ) (w : Walked) : Prop where
  evolves : Evolves s w.final
  sorted : w.items.Pairwise fun n m => pageKey n < pageKey m
  later : ∀ n ∈ w.items, k < pageKey n
  kept : ∀ n ∈ w.items, ∃ n', w.final.repository.notifications.get? n.notificationId = some n' ∧
    n.Later n'
  complete : w.finished = true → ∀ id n, s.repository.notifications.get? id = some n →
    k < pageKey n → (∀ s' ∈ w.stores, ∃ n', s'.repository.notifications.get? id = some n' ∧
      q.Matches prim n') → ∃ n' ∈ w.items, n'.notificationId = id

theorem followed_none (s : State) (k : WithBot (Lex (List Nat × String))ᵒᵈ)
    (stores : List State) (error : Option Error) :
    Followed prim q s k ⟨[], stores, s, error, false⟩ where
  evolves := .refl s
  sorted := .nil
  later _ h := by cases h
  kept _ h := by cases h
  complete h := by cases h

theorem mem_remaining {k : WithBot (Lex (List Nat × String))ᵒᵈ} (h : Tracked s)
    (hreaches : Reaches prim nativeRoutes q access s.repository p) :
    n ∈ remaining k (q.list p s.repository) ↔
      s.repository.notifications.get? n.notificationId = some n ∧ q.Matches prim n ∧ k < pageKey n := by
  rw [remaining, Pages.after, List.mem_filter, mem_list h, Bool.and_true, decide_eq_true_eq]
  constructor
  · rintro ⟨⟨hn, htenant, hrecipient, hp⟩, hk⟩
    exact ⟨hn, ⟨htenant, hrecipient, p, hreaches.condition, hp⟩, hk⟩
  · rintro ⟨hn, ⟨htenant, hrecipient, p', hp', hp⟩, hk⟩
    rw [hreaches.condition] at hp'
    obtain rfl := Except.ok.inj hp'
    exact ⟨⟨hn, htenant, hrecipient, hp⟩, hk⟩

theorem followed_last {k : WithBot (Lex (List Nat × String))ᵒᵈ} (h : Shelved prim keys s)
    (hreaches : Reaches prim nativeRoutes q access s.repository p)
    (hlast : (remaining k (q.list p s.repository)).length ≤ q.limit.toNat) :
    Followed prim q s k ⟨(remaining k (q.list p s.repository)).take q.limit.toNat, [s], s, none, true⟩ := by
  rw [List.take_of_length_le hlast]
  refine { evolves := .refl s, sorted := (list_sorted h.tracked q p).filter _,
           later := fun n hn => ((mem_remaining h.tracked hreaches).1 hn).2.2,
           kept := fun n hn => ⟨n, ((mem_remaining h.tracked hreaches).1 hn).1, Or.inl rfl⟩,
           complete := fun _ id n hn hk hmatches => ?_ }
  obtain ⟨n', hn', hmatched⟩ := hmatches s (List.mem_singleton_self s)
  obtain rfl := Option.some.inj (hn.symm.trans hn')
  obtain rfl := h.tracked.ids id n hn
  exact ⟨n, (mem_remaining h.tracked hreaches).2 ⟨hn, hmatched, hk⟩, rfl⟩

theorem followed_more {k k' : WithBot (Lex (List Nat × String))ᵒᵈ} {rest : Walked} (h : Shelved prim keys s)
    (hreaches : Reaches prim nativeRoutes q access s.repository p)
    (hnext : nextKey q.limit.toNat k (q.list p s.repository) = some k') (hevolves : Evolves s s')
    (hrest : Followed prim q s' k' rest) :
    Followed prim q s k { rest with
      items := (remaining k (q.list p s.repository)).take q.limit.toNat ++ rest.items
      stores := s :: rest.stores } := by
  have hsorted := list_sorted h.tracked q p
  have hparts : (remaining k (q.list p s.repository)).take q.limit.toNat ++
      remaining k' (q.list p s.repository) = remaining k (q.list p s.repository) :=
    Pages.after_of_next hsorted (List.prefix_refl _) hnext
  have hpage : ∀ n ∈ (remaining k (q.list p s.repository)).take q.limit.toNat,
      n ∈ remaining k (q.list p s.repository) := fun n => List.mem_of_mem_take
  have hpageSorted := (hsorted.filter fun n => decide (k < pageKey n) && true).sublist
    (List.take_sublist q.limit.toNat _)
  obtain ⟨-, a, ha, hk'⟩ := Pages.of_next hnext
  have hupto : ∀ n ∈ (remaining k (q.list p s.repository)).take q.limit.toNat, pageKey n ≤ k' :=
    fun n hn => hk' ▸ Pages.le_getLast hpageSorted ha hn
  have hstep : k < k' := by
    rw [← hk']
    exact ((mem_remaining h.tracked hreaches).1 (hpage a (List.mem_of_getLast? ha))).2.2
  refine { evolves := hevolves.trans hrest.evolves, sorted := ?_, later := fun n hn => ?_,
           kept := fun n hn => ?_, complete := fun hfinished id n hn hk hmatches => ?_ }
  · refine List.pairwise_append.2 ⟨hpageSorted, hrest.sorted,
      fun n hn m hm => (hupto n hn).trans_lt (hrest.later m hm)⟩
  · rcases List.mem_append.1 hn with hn | hn
    · exact ((mem_remaining h.tracked hreaches).1 (hpage n hn)).2.2
    · exact hstep.trans (hrest.later n hn)
  · rcases List.mem_append.1 hn with hn | hn
    · obtain ⟨n', hn', hlater⟩ :=
        hevolves _ n ((mem_remaining h.tracked hreaches).1 (hpage n hn)).1
      obtain ⟨n'', hn'', hlater'⟩ := hrest.evolves _ n' hn'
      exact ⟨n'', hn'', hlater.trans hlater'⟩
    · exact hrest.kept n hn
  · rw [List.forall_mem_cons] at hmatches
    obtain ⟨⟨n', hn', hmatched⟩, hothers⟩ := hmatches
    obtain rfl := Option.some.inj (hn.symm.trans hn')
    obtain rfl := h.tracked.ids id n hn
    have hmem := (mem_remaining h.tracked hreaches).2 ⟨hn, hmatched, hk⟩
    rw [← hparts] at hmem
    rcases List.mem_append.1 hmem with hmem | hmem
    · exact ⟨n, List.mem_append_left _ hmem, rfl⟩
    · have hk'n := ((mem_remaining h.tracked hreaches).1 hmem).2.2
      obtain ⟨n', hn', hlater⟩ := hevolves _ n hn
      obtain ⟨m, hm, hid⟩ := hrest.complete hfinished _ n' hn' (by rwa [hlater.pageKey]) hothers
      exact ⟨m, List.mem_append_right _ hm, hid⟩

theorem exists_getLast {limit : Int} (hlimit : 1 ≤ limit)
    (hmore : limit.toNat < items.length) : ∃ a, (items.take limit.toNat).getLast? = some a := by
  refine Option.ne_none_iff_exists'.1 fun hnone => ?_
  have hlength := congrArg List.length (List.getLast?_eq_none_iff.1 hnone)
  rw [List.length_take, List.length_nil] at hlength
  omega

variable (nativeRoutes) in
theorem follow_spec (hcollision : CollisionFree prim keys) {visits : List Visit}
    (hvisits : ∀ key ∈ publishedKeys (visits.flatMap (·.calls)), key ∈ keys)
    (h : Shelved prim keys s) {k : WithBot (Lex (List Nat × String))ᵒᵈ}
    (hposition : Position prim q s cursor k) :
    Followed prim q s k (follow prim nativeRoutes q s cursor visits) ∧
      ((follow prim nativeRoutes q s cursor visits).error ≠ some invalidCursor ↔
        CursorsHold prim nativeRoutes q s cursor visits) := by
  induction visits generalizing s cursor k with
  | nil => exact ⟨followed_none s k [] none, iff_of_true (by simp [follow]) trivial⟩
  | cons v vs ih =>
    have hsplit : publishedKeys ((v :: vs).flatMap (·.calls)) =
        publishedKeys v.calls ++ publishedKeys (vs.flatMap (·.calls)) := by
      simp [publishedKeys]
    rw [hsplit] at hvisits
    obtain ⟨hshelved, hevolves⟩ := shelved_runFrom nativeRoutes h hcollision
      fun key hkey => hvisits key (List.mem_append_left _ hkey)
    have hlisted := list_listed prim nativeRoutes h.tracked q cursor v.access v.recount
    rcases hlist : listNotifications prim nativeRoutes q cursor v.access v.recount s.repository with
      e | page
    · rw [hlist] at hlisted
      simp only [follow, CursorsHold, hlist, reduceCtorEq, false_implies, implies_true, and_true]
      refine ⟨followed_none s k [s] (some e), ?_⟩
      cases hlisted with
      | refused other starts =>
        refine iff_of_true (fun hsame => other (Option.some.inj hsame)) ?_
        rintro ⟨p, hreaches⟩
        obtain ⟨k', hstarts⟩ := starts p hreaches
        exact ((starts_iff h hposition hreaches k').1 hstarts).2
      | lost reaches lost =>
        refine iff_of_false (by simp) fun hholds => lost ?_
        exact ⟨k, (starts_iff h hposition reaches k).2 ⟨rfl, hholds ⟨_, reaches⟩⟩⟩
    · rw [hlist] at hlisted
      cases hlisted with
      | @page p reaches k' starts unreadCount =>
        obtain ⟨rfl, hholds⟩ := (starts_iff h hposition reaches k').1 starts
        by_cases hmore : q.limit.toNat < (remaining k' (q.list p s.repository)).length
        · obtain ⟨a, ha⟩ := exists_getLast reaches.limit.1 hmore
          rw [if_pos hmore, ha, Option.map_some] at hlist
          have hnext : nextKey q.limit.toNat k' (q.list p s.repository) = some (pageKey a) := by
            rw [nextKey, Pages.next, if_pos hmore, ha, Option.map_some]
          obtain ⟨hstored, hmatches, -⟩ := (mem_remaining h.tracked reaches).1
            (List.mem_of_mem_take (List.mem_of_getLast? ha))
          obtain ⟨n', hn', hlater⟩ := hevolves _ a hstored
          have hthere : Position prim q ((machine prim nativeRoutes).runFrom s v.calls)
              (some (encodeCursor prim a.notificationId)) (pageKey a) :=
            ⟨a, n', rfl, rfl, hmatches, hn', hlater⟩
          obtain ⟨hrest, herror⟩ := ih (fun key hkey => hvisits key (List.mem_append_right _ hkey))
            hshelved hthere
          simp only [follow, CursorsHold, hlist, Except.ok.injEq]
          refine ⟨followed_more h reaches hnext hevolves hrest, herror.trans ⟨fun hall => ?_, ?_⟩⟩
          · refine ⟨fun _ => hholds, ?_⟩
            rintro page next rfl hcursor
            obtain rfl := Option.some.inj hcursor
            exact hall
          · exact fun hall => hall.2 _ _ rfl rfl
        · rw [if_neg hmore] at hlist
          simp only [follow, CursorsHold, hlist, Except.ok.injEq]
          refine ⟨followed_last h reaches (not_lt.1 hmore), iff_of_true (by simp) ⟨fun _ => hholds, ?_⟩⟩
          rintro page next rfl hcursor
          cases hcursor

theorem Followed.nodup {k : WithBot (Lex (List Nat × String))ᵒᵈ} {w : Walked}
    (h : Followed prim q s k w) : (w.items.map (·.notificationId)).Nodup := by
  refine List.pairwise_map.2 (h.sorted.imp_of_mem fun {n m} hn hm hlt hid => ?_)
  obtain ⟨n', hn', hlater⟩ := h.kept n hn
  obtain ⟨m', hm', hlater'⟩ := h.kept m hm
  rw [hid, hm'] at hn'
  obtain rfl := Option.some.inj hn'
  rw [← hlater.pageKey, hlater'.pageKey] at hlt
  exact lt_irrefl _ hlt

theorem mem_stores {visits : List Visit}
    (h : (follow prim nativeRoutes q s cursor visits).finished = true) :
    s ∈ (follow prim nativeRoutes q s cursor visits).stores := by
  cases visits with
  | nil => cases h
  | cons v vs =>
    unfold follow
    split
    · exact List.mem_cons_self
    · split
      · exact List.mem_cons_self
      · exact List.mem_cons_self

/-- What was returned has no notification twice and, at the end, every one that matched throughout; and
no cursor was refused. -/
structure Paged (prim : Primitives) (q : Query) (w : Walked) : Prop where
  nodup : (w.items.map (·.notificationId)).Nodup
  complete : w.finished = true → ∀ id, (∀ s ∈ w.stores, ∃ n,
    s.repository.notifications.get? id = some n ∧ q.Matches prim n) →
      id ∈ w.items.map (·.notificationId)
  accepted : w.error ≠ some invalidCursor

/-- From any store of a run on, the pages are as they should be, with any calls in between, exactly when
every cursor that is sent holds. -/
theorem pages_iff (prim : Primitives) (nativeRoutes : List String) (q : Query)
    (before : List Input) (visits : List Visit)
    (hcollision : CollisionFree prim (publishedKeys (before ++ visits.flatMap (·.calls)))) :
    Paged prim q (follow prim nativeRoutes q ((machine prim nativeRoutes).run before) none visits) ↔
      CursorsHold prim nativeRoutes q ((machine prim nativeRoutes).run before) none visits := by
  have hkeys : publishedKeys (before ++ visits.flatMap (·.calls)) =
      publishedKeys before ++ publishedKeys (visits.flatMap (·.calls)) := by
    simp [publishedKeys]
  have hshelved : Shelved prim (publishedKeys (before ++ visits.flatMap (·.calls)))
      ((machine prim nativeRoutes).run before) := by
    refine (shelved_runFrom nativeRoutes shelved_init hcollision fun key hkey => ?_).1
    rw [hkeys]
    exact List.mem_append_left _ hkey
  have hposition : Position prim q ((machine prim nativeRoutes).run before) none ⊥ := rfl
  obtain ⟨hfollowed, herror⟩ := follow_spec nativeRoutes hcollision
    (fun key hkey => hkeys ▸ List.mem_append_right _ hkey) hshelved hposition
  rw [← herror]
  refine ⟨fun hpaged => hpaged.accepted, fun hnone => ⟨hfollowed.nodup, ?_, hnone⟩⟩
  intro hfinished id hmatches
  obtain ⟨n, hn, -⟩ := hmatches _ (mem_stores hfinished)
  obtain ⟨n', hn', hid⟩ := hfollowed.complete hfinished id n hn (WithBot.bot_lt_coe _) hmatches
  exact List.mem_map.2 ⟨n', hn', hid⟩

namespace Sample

def twoPrimitives : Primitives where
  sha256 text := if text = "event-1|user-1|warning" then digest else Audit.Sample.emptyHash
  digest text := by split_ifs <;> decide
  casefold := Audit.Sample.primitives.casefold
  ipAddress := Audit.Sample.primitives.ipAddress
  hostname := Audit.Sample.primitives.hostname
  urlsplit value := some ⟨"", "", value, "", ""⟩
  hmac := primitives.hmac
  hmac_bytes := primitives.hmac_bytes
  hmac_length := primitives.hmac_length

def twoEvents : List Input :=
  [.publish { Sample.event with eventId := "event-1" } [candidate],
    .publish { Sample.event with eventId := "event-2" } [candidate]]

def unread : Query := ⟨candidate.principal, 1, [("state", "unread")], none⟩

def markFirst : MarkRead where
  principal := candidate.principal
  notificationId := "notification-f30ab2f83d5b6f0bd8dc8fe9"
  expectedEtag := "\"notification-1\""
  idempotencyKey := "idempotency-key-1"
  requestedState := "read"
  traceId := "trace-1"
  policyVersion := "policy-1"
  denial := none
  clock := some time
  refusal := none

def visits : List Visit :=
  [⟨fun _ => none, fun _ => none, [.markRead markFirst]⟩, ⟨fun _ => none, fun _ => none, []⟩]

end Sample

/-- The second page of the unread ones is refused where the last one of the first was read. -/
theorem not_paged_of_read :
    ¬Paged Sample.twoPrimitives Sample.unread (follow Sample.twoPrimitives [] Sample.unread
      ((machine Sample.twoPrimitives []).run Sample.twoEvents) none Sample.visits) := by
  intro h
  exact h.accepted (by decide +kernel)

/-- The keys differ, and so do their digests; the cursor of the first page no longer holds. -/
theorem not_cursorsHold_of_read :
    ¬CursorsHold Sample.twoPrimitives [] Sample.unread
      ((machine Sample.twoPrimitives []).run Sample.twoEvents) none Sample.visits := by
  intro h
  have hpaged := (pages_iff Sample.twoPrimitives [] Sample.unread Sample.twoEvents Sample.visits
    (by unfold CollisionFree; decide +kernel)).2 h
  exact hpaged.accepted (by decide +kernel)

end DaonUser.Notifications
