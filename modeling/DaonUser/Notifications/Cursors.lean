import DaonUser.Lib.JsonSize
import DaonUser.Notifications.Postgres

/-!
# Notifications: cursors

`encode_cursor` puts a dot and a MAC of sixteen bytes after the id. `decode_cursor` cuts what it reads at the
last dot, and one of the bytes of the MAC may be a dot. It reads base64 the lenient way, so that a cursor has
more than one spelling. `cursors_iff` says which ids come back and which other texts are taken for a cursor.
-/

namespace DaonUser.Notifications

open Lib

variable {prim : Primitives}

/-! ## The bytes of a cursor -/

def mac (prim : Primitives) (itemId : String) : List Nat :=
  (prim.hmac (itemId.toList.map (·.toNat))).take 16

theorem length_mac (itemId : String) : (mac prim itemId).length = 16 := by
  rw [mac, List.length_take, prim.hmac_length]
  rfl

theorem rsplitDot_append {payload digest : List Nat} (h : '.'.toNat ∉ digest) :
    rsplitDot (payload ++ '.'.toNat :: digest) = some (payload, digest) := by
  have htake : ((payload ++ '.'.toNat :: digest).reverse.takeWhile (· ≠ '.'.toNat)).reverse =
      digest := by
    rw [List.reverse_append, List.reverse_cons, List.append_assoc, List.takeWhile_append_of_pos]
    · simp
    · intro b hb
      simp only [ne_eq, decide_not, Bool.not_eq_true', decide_eq_false_iff_not]
      rintro rfl
      exact h (List.mem_reverse.1 hb)
  have hlength : (payload ++ '.'.toNat :: digest).length - digest.length - 1 = payload.length := by
    rw [List.length_append, List.length_cons]
    omega
  rw [rsplitDot, if_pos (by simp), htake]
  simp only [hlength, List.take_left]

theorem toNat_lt_of_isIdChar {c : Char} (h : isIdChar c = true) : c.toNat < 128 := by
  rw [isIdChar, Bool.or_eq_true] at h
  rcases h with h | h
  · exact (Lib.Json.isPlain_of_isAlphanum h).2.1
  · have hall : "._:-".toList.all (fun c => decide (c.toNat < 128)) = true := by decide
    exact of_decide_eq_true (List.all_eq_true.1 hall c (List.contains_iff_mem.1 h))

theorem toNat_lt_of_isSafeId {id : String} (h : isSafeId id = true) :
    (∀ c ∈ id.toList, c.toNat < 128) ∧ id.toList.length ≤ 128 := by
  unfold isSafeId at h
  split at h
  · cases h
  · next c cs hcs =>
    simp only [Bool.and_eq_true, decide_eq_true_eq, List.all_eq_true] at h
    rw [hcs]
    refine ⟨?_, by rw [List.length_cons]; omega⟩
    intro d hd
    rcases List.mem_cons.1 hd with rfl | hd
    · exact toNat_lt_of_isIdChar (by rw [isIdChar, h.1.1, Bool.true_or])
    · exact toNat_lt_of_isIdChar (h.1.2 d hd)

def cursorBytes (prim : Primitives) (id : String) : List Nat :=
  id.toList.map (·.toNat) ++ '.'.toNat :: mac prim id

theorem cursorBytes_inj {id id' : String} (h : cursorBytes prim id = cursorBytes prim id') : id = id' := by
  obtain ⟨hpayload, -⟩ := List.append_inj' h (by simp [length_mac])
  apply String.toList_injective
  exact List.map_injective_iff.2 (fun _ _ => Char.toNat_inj.1) hpayload

theorem rsplitDot_eq_some {raw payload digest : List Nat} :
    rsplitDot raw = some (payload, digest) ↔
      raw = payload ++ '.'.toNat :: digest ∧ '.'.toNat ∉ digest := by
  constructor
  · intro h
    have hmem : '.'.toNat ∈ raw := by
      by_contra hnot
      rw [rsplitDot, if_neg hnot] at h
      cases h
    obtain ⟨as, bs, hreverse, hdot⟩ := List.eq_append_cons_of_mem (List.mem_reverse.2 hmem)
    have hraw : raw = bs.reverse ++ '.'.toNat :: as.reverse := by
      rw [← List.reverse_reverse raw, hreverse]
      simp
    have hdigest : '.'.toNat ∉ as.reverse := fun hmem => hdot (List.mem_reverse.1 hmem)
    rw [hraw, rsplitDot_append hdigest] at h
    obtain ⟨rfl, rfl⟩ := Prod.mk.inj (Option.some.inj h)
    exact ⟨hraw, hdigest⟩
  · rintro ⟨rfl, hdot⟩
    exact rsplitDot_append hdot

theorem map_toNat_ofNat {payload : List Nat} (h : ∀ b ∈ payload, b < 128) :
    (payload.map Char.ofNat).map (·.toNat) = payload := by
  induction payload with
  | nil => rfl
  | cons b payload ih =>
    have hb := h b List.mem_cons_self
    have hvalid : b.isValidChar := Or.inl (by omega)
    rw [List.map_cons, List.map_cons, ih fun b' hb' => h b' (List.mem_cons_of_mem _ hb'),
      Char.ofNat, dif_pos hvalid]
    rfl

/-! ## Reading -/

/-- What `decode_cursor` does not refuse at once, with the bytes that it reads. -/
structure Reads (cursor : String) (bytes : List Nat) : Prop where
  nonempty : cursor ≠ ""
  short : cursor.toList.length ≤ 512
  ascii : ∀ c ∈ cursor.toList, c.toNat < 128
  decoded : Base64.decode (Base64.pad cursor.toList) = some bytes

theorem cursorBytes_lt {id : String} (h : isSafeId id = true) : ∀ b ∈ cursorBytes prim id, b < 256 := by
  intro b hb
  rcases List.mem_append.1 hb with hb | hb
  · obtain ⟨c, hc, rfl⟩ := List.mem_map.1 hb
    exact ((toNat_lt_of_isSafeId h).1 c hc).trans (by decide)
  · rcases List.mem_cons.1 hb with rfl | hb
    · decide
    · exact prim.hmac_bytes _ b (List.mem_of_mem_take hb)

theorem reads_encodeCursor {id : String} (h : isSafeId id = true) :
    Reads (encodeCursor prim id) (cursorBytes prim id) := by
  obtain ⟨-, hlength⟩ := toNat_lt_of_isSafeId h
  have hshort : (cursorBytes prim id).length ≤ 256 := by
    rw [cursorBytes, List.length_append, List.length_map, List.length_cons, length_mac]
    omega
  obtain ⟨hchecks, hplain, hdecode⟩ :=
    Base64.readable_encode (by simp [cursorBytes]) hshort (cursorBytes_lt h)
  obtain ⟨hne, hlong⟩ := not_or.1 hchecks
  refine ⟨hne, not_lt.1 hlong, fun c hc => ?_, hdecode⟩
  by_contra hlarge
  exact hplain (List.any_eq_true.2 ⟨c, hc, decide_eq_true (not_lt.1 hlarge)⟩)

/-- A text is taken for the cursor of an id exactly when the bytes that it spells are those of the id, and the
MAC of the id has no dot. -/
theorem decodeCursor_eq_ok {cursor id : String} : decodeCursor prim cursor = .ok id ↔
    isSafeId id = true ∧ '.'.toNat ∉ mac prim id ∧ Reads cursor (cursorBytes prim id) := by
  constructor
  · intro h
    unfold decodeCursor at h
    split at h
    · cases h
    next hlength =>
    obtain ⟨hne, hshort⟩ := not_or.1 hlength
    split at h
    · cases h
    next hplain =>
    split at h
    · cases h
    next payload digest hsplit =>
    obtain ⟨raw, hdecoded, hcut⟩ := Option.bind_eq_some_iff.1 hsplit
    obtain ⟨rfl, hdot⟩ := rsplitDot_eq_some.1 hcut
    split at h
    · cases h
    next hpayload =>
    dsimp only at h
    split at h
    · cases h
    next hchecks =>
    obtain ⟨hdigest, hsafe⟩ := not_or.1 hchecks
    rw [not_not] at hdigest hsafe
    obtain rfl := Except.ok.inj h
    have hsmall : ∀ b ∈ payload, b < 128 := by
      intro b hb
      by_contra hlarge
      exact hpayload (List.any_eq_true.2 ⟨b, hb, decide_eq_true (not_lt.1 hlarge)⟩)
    have hascii : ∀ c ∈ cursor.toList, c.toNat < 128 := by
      intro c hc
      by_contra hlarge
      exact hplain (List.any_eq_true.2 ⟨c, hc, decide_eq_true (not_lt.1 hlarge)⟩)
    have hback : (String.ofList (payload.map Char.ofNat)).toList.map (·.toNat) = payload := by
      rw [String.toList_ofList, map_toNat_ofNat hsmall]
    have hmac : mac prim (String.ofList (payload.map Char.ofNat)) = digest := by
      rw [mac, hback, hdigest]
    refine ⟨hsafe, by rwa [hmac], hne, not_lt.1 hshort, hascii, ?_⟩
    rw [cursorBytes, hback, hmac, hdecoded]
  · rintro ⟨hsafe, hdot, hreads⟩
    have hback : String.ofList ((id.toList.map (·.toNat)).map Char.ofNat) = id := by
      simp [List.map_map, Function.comp_def]
    have hcut : (Base64.decode (Base64.pad cursor.toList)).bind rsplitDot =
        some (id.toList.map (·.toNat), mac prim id) := by
      rw [hreads.decoded, Option.bind_some, cursorBytes, rsplitDot_append hdot]
    rw [decodeCursor, if_neg (not_or.2 ⟨hreads.nonempty, not_lt.2 hreads.short⟩), if_neg, hcut]
    · simp only [hback]
      rw [if_neg, if_neg]
      · simp [hsafe, mac]
      · rw [List.any_eq_true]
        rintro ⟨b, hb, hlarge⟩
        obtain ⟨c, hc, rfl⟩ := List.mem_map.1 hb
        exact absurd ((toNat_lt_of_isSafeId hsafe).1 c hc) (not_lt.2 (of_decide_eq_true hlarge))
    · rw [List.any_eq_true]
      rintro ⟨c, hc, hlarge⟩
      exact absurd (hreads.ascii c hc) (not_lt.2 (of_decide_eq_true hlarge))

theorem decodeCursor_cases (prim : Primitives) (cursor : String) :
    decodeCursor prim cursor = fail "INVALID_CURSOR" ∨ ∃ id, decodeCursor prim cursor = .ok id := by
  unfold decodeCursor
  split
  · exact Or.inl rfl
  · split
    · exact Or.inl rfl
    · split
      · exact Or.inl rfl
      · dsimp only
        split
        · exact Or.inl rfl
        · split
          · exact Or.inl rfl
          · exact Or.inr ⟨_, rfl⟩

theorem decodeCursor_refused {cursor : String} (h : ∀ id, decodeCursor prim cursor ≠ .ok id) :
    decodeCursor prim cursor = fail "INVALID_CURSOR" := by
  rcases decodeCursor_cases prim cursor with hrefused | ⟨id, hid⟩
  · exact hrefused
  · exact absurd hid (h id)

theorem decodeCursor_encodeCursor {id : String} (h : isSafeId id = true)
    (hdot : '.'.toNat ∉ mac prim id) : decodeCursor prim (encodeCursor prim id) = .ok id :=
  decodeCursor_eq_ok.2 ⟨h, hdot, reads_encodeCursor h⟩

theorem decodeCursor_of_dot {id : String} (h : isSafeId id = true)
    (hdot : '.'.toNat ∈ mac prim id) :
    decodeCursor prim (encodeCursor prim id) = fail "INVALID_CURSOR" := by
  apply decodeCursor_refused
  intro id' hid
  obtain ⟨-, hdot', hreads⟩ := decodeCursor_eq_ok.1 hid
  have hencoded : Reads (encodeCursor prim id) (cursorBytes prim id) := reads_encodeCursor h
  have hbytes := hencoded.decoded.symm.trans hreads.decoded
  obtain rfl := cursorBytes_inj (Option.some.inj hbytes)
  exact hdot' hdot

/-! ## The cursors that are taken -/

/-- The text spells the bytes of a cursor that is read back. -/
def Spells (prim : Primitives) (cursor : String) : Prop :=
  ∃ id, isSafeId id = true ∧ '.'.toNat ∉ mac prim id ∧ Reads cursor (cursorBytes prim id)

/-- An id comes back exactly when its MAC has no dot. A text that is the cursor of no id is refused exactly
when it is no other spelling of one, and so is every text that is written as base64 is. -/
theorem cursors_iff (prim : Primitives) :
    (∀ id, isSafeId id = true →
      (decodeCursor prim (encodeCursor prim id) = .ok id ↔ '.'.toNat ∉ mac prim id)) ∧
    ∀ cursor, (∀ id, isSafeId id = true → cursor ≠ encodeCursor prim id) →
      (decodeCursor prim cursor = fail "INVALID_CURSOR" ↔ ¬Spells prim cursor) ∧
      ∀ bytes : List Nat, (∀ b ∈ bytes, b < 256) → cursor = String.ofList (Base64.encode bytes) →
        ¬Spells prim cursor := by
  constructor
  · intro id hsafe
    constructor
    · intro h
      exact (decodeCursor_eq_ok.1 h).2.1
    · exact decodeCursor_encodeCursor hsafe
  · intro cursor hother
    refine ⟨?_, ?_⟩
    · constructor
      · rintro hrefused ⟨id, hspells⟩
        rw [decodeCursor_eq_ok.2 hspells] at hrefused
        cases hrefused
      · intro h
        exact decodeCursor_refused fun id hid => h ⟨id, decodeCursor_eq_ok.1 hid⟩
    · rintro bytes hbytes rfl ⟨id, hsafe, -, hreads⟩
      have hdecoded := hreads.decoded
      rw [String.toList_ofList, Base64.decode_encode hbytes] at hdecoded
      exact hother id hsafe (by rw [Option.some.inj hdecoded]; rfl)

namespace Sample

def tagged (byte : Nat) (h : byte < 256) : Primitives where
  toPrimitives := primitives.toPrimitives
  urlsplit := primitives.urlsplit
  hmac _ := List.replicate 32 byte
  hmac_bytes _ b hb := by rwa [List.eq_of_mem_replicate hb]
  hmac_length _ := List.length_replicate

end Sample

/-- A cursor whose MAC has a dot does not come back, and a cursor with padding is taken. -/
theorem cursors_not_lawful :
    (¬∀ (prim : Primitives) (id : String), isSafeId id = true →
      decodeCursor prim (encodeCursor prim id) = .ok id) ∧
    ¬∀ (prim : Primitives) (cursor : String),
      (∀ id, isSafeId id = true → cursor ≠ encodeCursor prim id) →
        decodeCursor prim cursor = fail "INVALID_CURSOR" := by
  constructor
  · intro h
    have hback := h (Sample.tagged 46 (by decide)) "n-1" (by decide)
    exact (decodeCursor_eq_ok.1 hback).2.1 (by decide)
  · intro h
    have hrefused := h (Sample.tagged 0 (by decide)) "bi0xLgAAAAAAAAAAAAAAAAAAAAA=" ?_
    · have htaken : decodeCursor (Sample.tagged 0 (by decide)) "bi0xLgAAAAAAAAAAAAAAAAAAAAA=" =
          .ok "n-1" := by
        refine decodeCursor_eq_ok.2 ⟨by decide, by decide, by decide, by decide, by simp, by decide⟩
      rw [htaken] at hrefused
      cases hrefused
    · intro id hsafe heq
      have hpad : '=' ∈ (encodeCursor (Sample.tagged 0 (by decide)) id).toList := by
        rw [← heq]
        decide
      rw [encodeCursor, String.toList_ofList] at hpad
      exact Base64.encode_ne_pad (cursorBytes_lt hsafe) '=' hpad rfl

end DaonUser.Notifications
