import DaonUser.ObjectQueue.Replay
import DaonUser.Sync.Spec

/-!
# Sync: the keys under which items are transmitted

`transfer_batch` and `resolve_conflict` ask the transfer port under the key `{idempotency_key}:{item_id}`,
which the object queue takes as the idempotency key of its registration. Both ids may hold colons and have
up to 128 characters, as may the key: it can be too long, and it can be cut at another colon.
`transportKey_lawful_iff` says when neither happens.
-/

namespace DaonUser

/-! ## Ids -/

/-- What `_SAFE_ID.fullmatch` takes, as characters. -/
structure SafeChars (cs : List Char) : Prop where
  head : ∃ c ∈ cs.head?, c.isAlphanum = true
  chars : ∀ c ∈ cs, isIdChar c = true
  length : cs.length ≤ 128

theorem isIdChar_of_isAlphanum {c : Char} (h : c.isAlphanum = true) : isIdChar c = true := by
  simp [isIdChar, h]

theorem isSafeId_iff {s : String} : isSafeId s = true ↔ SafeChars s.toList := by
  unfold isSafeId
  constructor
  · intro h
    split at h
    · cases h
    · next c cs hcs =>
      simp only [Bool.and_eq_true, List.all_eq_true, decide_eq_true_eq] at h
      obtain ⟨⟨hc, hall⟩, hlength⟩ := h
      rw [hcs]
      have hlength : (c :: cs).length ≤ 128 := by
        rw [List.length_cons]
        omega
      refine ⟨⟨c, rfl, hc⟩, ?_, hlength⟩
      intro d hd
      rcases List.mem_cons.1 hd with rfl | hd
      · exact isIdChar_of_isAlphanum hc
      · exact hall d hd
  · intro h
    split
    · next hnil =>
      obtain ⟨c, hc, -⟩ := h.head
      rw [hnil] at hc
      cases hc
    · next c cs hcs =>
      rw [hcs] at h
      obtain ⟨d, hd, halphanum⟩ := h.head
      obtain rfl : c = d := Option.some.inj hd
      simp only [Bool.and_eq_true, List.all_eq_true, decide_eq_true_eq]
      refine ⟨⟨halphanum, fun e he => h.chars e (List.mem_cons_of_mem _ he)⟩, ?_⟩
      have hlength := h.length
      simp only [List.length_cons] at hlength
      omega

namespace SafeChars

variable {as bs : List Char}

theorem ne_nil (h : SafeChars as) : as ≠ [] := by
  rintro rfl
  obtain ⟨c, hc, -⟩ := h.head
  cases hc

theorem left (h : SafeChars (as ++ bs)) (hne : as ≠ []) : SafeChars as where
  head := by
    obtain ⟨c, hc, halphanum⟩ := h.head
    rw [List.head?_append_of_ne_nil _ hne] at hc
    exact ⟨c, hc, halphanum⟩
  chars c hc := h.chars c (List.mem_append_left _ hc)
  length := by
    have hlength := h.length
    rw [List.length_append] at hlength
    omega

theorem right {c : Char} (h : SafeChars (as ++ c :: bs)) (hc : c.isAlphanum = true) :
    SafeChars (c :: bs) where
  head := ⟨c, rfl, hc⟩
  chars d hd := h.chars d (List.mem_append_right _ hd)
  length := by
    have hlength := h.length
    rw [List.length_append] at hlength
    omega

theorem join {c : Char} (hc : isIdChar c = true) (has : SafeChars as) (hbs : SafeChars bs)
    (hlength : as.length + bs.length ≤ 127) : SafeChars (as ++ c :: bs) where
  head := by
    obtain ⟨d, hd, halphanum⟩ := has.head
    exact ⟨d, by rw [List.head?_append_of_ne_nil _ has.ne_nil]; exact hd, halphanum⟩
  chars d hd := by
    rcases List.mem_append.1 hd with hd | hd
    · exact has.chars d hd
    · rcases List.mem_cons.1 hd with rfl | hd
      · exact hc
      · exact hbs.chars d hd
  length := by
    rw [List.length_append, List.length_cons]
    omega

end SafeChars

def innerColon : List Char → Bool
  | [] => false
  | c :: cs => (c = ':' && cs.head?.any Char.isAlphanum) || innerColon cs

theorem innerColon_iff {cs : List Char} :
    innerColon cs = true ↔ ∃ as c bs, cs = as ++ ':' :: c :: bs ∧ c.isAlphanum = true := by
  induction cs with
  | nil => simp [innerColon]
  | cons d cs ih =>
    rw [innerColon, Bool.or_eq_true, ih]
    constructor
    · rintro (h | ⟨as, c, bs, rfl, hc⟩)
      · simp only [Bool.and_eq_true, decide_eq_true_eq, Option.any_eq_true] at h
        obtain ⟨rfl, c, hc, halphanum⟩ := h
        obtain ⟨bs, rfl⟩ := List.head?_eq_some_iff.1 hc
        exact ⟨[], c, bs, rfl, halphanum⟩
      · exact ⟨d :: as, c, bs, rfl, hc⟩
    · rintro ⟨as, c, bs, hcs, hc⟩
      cases as with
      | nil =>
        obtain ⟨rfl, rfl⟩ := List.cons.inj hcs
        exact Or.inl (by simpa using hc)
      | cons a as =>
        obtain ⟨rfl, rfl⟩ := List.cons.inj hcs
        exact Or.inr ⟨as, c, bs, rfl, hc⟩

namespace Sync

def transportKey (idempotencyKey itemId : String) : String := idempotencyKey ++ ":" ++ itemId

structure TransportKeyLawful (idempotencyKey itemId : String) : Prop where
  /-- `register_object_job` takes it wherever it takes another key. -/
  accepted : ∀ r : ObjectQueue.Registration, r.Checked →
    { r with idempotencyKey := transportKey idempotencyKey itemId }.Checked
  /-- It is the key of no other item and call. -/
  unique : ∀ key itemId', isSafeId key = true → isSafeId itemId' = true →
    transportKey key itemId' = transportKey idempotencyKey itemId →
    key = idempotencyKey ∧ itemId' = itemId

theorem toList_transportKey (key itemId : String) :
    (transportKey key itemId).toList = key.toList ++ ':' :: itemId.toList := by
  simp [transportKey]

theorem accepted_iff (key : String) :
    (∀ r : ObjectQueue.Registration, r.Checked → { r with idempotencyKey := key }.Checked) ↔
      isSafeId key = true := by
  constructor
  · intro h
    have hchecked : (ObjectQueue.Submitted.registration "a" "trace").Checked := by decide +kernel
    exact (h _ hchecked).key
  · intro hkey r h
    exact ⟨h.capability, h.stagingKey, h.finalKey, hkey, h.trace, h.metadata, h.bounds⟩

section Cuts

variable {k i k' i' : List Char}

theorem cut_unique (hi : SafeChars i) (hi' : SafeChars i') (hk : innerColon k = false)
    (hcolon : innerColon i = false) (h : k' ++ ':' :: i' = k ++ ':' :: i) : k' = k ∧ i' = i := by
  rcases List.append_eq_append_iff.1 h with ⟨w, rfl, hw⟩ | ⟨w, rfl, hw⟩
  · cases w with
    | nil => exact ⟨(List.append_nil _).symm, (List.cons.inj hw).2⟩
    | cons d w =>
      obtain ⟨rfl, rfl⟩ := List.cons.inj hw
      obtain ⟨c, hc, halphanum⟩ := hi'.head
      cases w with
      | nil =>
        obtain rfl := Option.some.inj hc
        cases halphanum
      | cons e w =>
        obtain rfl := Option.some.inj hc
        rw [innerColon_iff.2 ⟨k', e, w, rfl, halphanum⟩] at hk
        cases hk
  · cases w with
    | nil => exact ⟨List.append_nil _, (List.cons.inj hw).2.symm⟩
    | cons d w =>
      obtain ⟨rfl, rfl⟩ := List.cons.inj hw
      obtain ⟨c, hc, halphanum⟩ := hi'.head
      obtain ⟨rest, rfl⟩ := List.head?_eq_some_iff.1 hc
      exact absurd (innerColon_iff.2 ⟨w, c, rest, rfl, halphanum⟩) (Bool.eq_false_iff.1 hcolon)

end Cuts

/-- A transport key is taken and cut in one way only exactly when it is not too long and no colon of the two
ids stands before a letter or a digit. -/
theorem transportKey_lawful_iff (idempotencyKey itemId : String)
    (hkey : isSafeId idempotencyKey = true) (hitem : isSafeId itemId = true) :
    TransportKeyLawful idempotencyKey itemId ↔
      idempotencyKey.toList.length + itemId.toList.length ≤ 127 ∧
        innerColon idempotencyKey.toList = false ∧ innerColon itemId.toList = false := by
  have hk := isSafeId_iff.1 hkey
  have hi := isSafeId_iff.1 hitem
  constructor
  · intro h
    have haccepted := isSafeId_iff.1 ((accepted_iff _).1 h.accepted)
    rw [toList_transportKey] at haccepted
    -- another cut of the key is another pair of ids
    have hother : ∀ as c bs, idempotencyKey.toList ++ ':' :: itemId.toList = as ++ ':' :: c :: bs →
        c.isAlphanum = true → as ≠ [] → as = idempotencyKey.toList := by
      intro as c bs heq hc hne
      rw [heq] at haccepted
      have hlast : SafeChars ((as ++ [':']) ++ c :: bs) := by simpa using haccepted
      have hright : SafeChars (c :: bs) := hlast.right hc
      have hpair := h.unique (String.ofList as) (String.ofList (c :: bs))
        (isSafeId_iff.2 (by simpa using haccepted.left hne)) (isSafeId_iff.2 (by simpa using hright))
        (String.toList_injective (by simp [toList_transportKey, heq]))
      simpa using congrArg String.toList hpair.1
    refine ⟨?_, ?_, ?_⟩
    · have hlength := haccepted.length
      rw [List.length_append, List.length_cons] at hlength
      omega
    · rw [Bool.eq_false_iff, ne_eq, innerColon_iff]
      rintro ⟨as, c, bs, hcs, hc⟩
      have hne : as ≠ [] := by
        rintro rfl
        obtain ⟨d, hd, halphanum⟩ := hk.head
        rw [hcs] at hd
        obtain rfl := Option.some.inj hd
        cases halphanum
      have hsame := hother as c (bs ++ ':' :: itemId.toList) (by simp [hcs]) hc hne
      rw [hcs] at hsame
      simpa using congrArg List.length hsame
    · rw [Bool.eq_false_iff, ne_eq, innerColon_iff]
      rintro ⟨as, c, bs, hcs, hc⟩
      have hsame := hother (idempotencyKey.toList ++ ':' :: as) c bs (by simp [hcs]) hc (by simp)
      simpa using congrArg List.length hsame
  · rintro ⟨hlength, hk', hi'⟩
    constructor
    · rw [accepted_iff, isSafeId_iff, toList_transportKey]
      exact SafeChars.join (by decide) hk hi hlength
    · intro key itemId' hkey' hitem' heq
      have hcut := congrArg String.toList heq
      rw [toList_transportKey, toList_transportKey] at hcut
      obtain ⟨h, h'⟩ := cut_unique hi (isSafeId_iff.1 hitem') hk' hi' hcut
      exact ⟨String.toList_injective h, String.toList_injective h'⟩

theorem transportKey_lawful_ids : TransportKeyLawful "key-1" "item-1" ↔
    "key-1".toList.length + "item-1".toList.length ≤ 127 ∧
      innerColon "key-1".toList = false ∧ innerColon "item-1".toList = false :=
  transportKey_lawful_iff "key-1" "item-1" (by decide) (by decide)

/-- Two pairs of ids have one transport key. -/
theorem transportKey_shared :
    ¬∀ key itemId, isSafeId key = true → isSafeId itemId = true → TransportKeyLawful key itemId := by
  intro h
  have hpair := (h "a:b" "c" (by decide) (by decide)).unique "a" "b:c" (by decide) (by decide)
    (by decide)
  exact absurd hpair.1 (by decide)

end Sync

end DaonUser
