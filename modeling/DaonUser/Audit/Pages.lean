import DaonUser.Audit.Chain
import DaonUser.Lib.Pages
import Mathlib.Algebra.Order.Group.Int

/-!
# Audit: reading a store in pages

A cursor is the number of the last event that was read (`decodeCursor_encodeCursor`); nothing else is
accepted (`encodeCursor_of_decodeCursor`). A walk over the pages, with appends between them, returns
the events that match when its last page is read (`walk_spec`).
-/

namespace DaonUser.Audit

open Lib Lib.Call

variable {events items : List AuditEvent} {s final : AuditEventStore} {q : Query} {cursor : Option String}
  {growth : List (List AuditEventDraft)}

variable {prim : Primitives}

/-! ## Cursors -/

theorem stripChars_of {p : Char → Bool} {cs : List Char} (h : ∀ c ∈ cs, p c = false) :
    stripChars p cs = cs := by
  have hdrop : ∀ ds : List Char, (∀ c ∈ ds, p c = false) → ds.dropWhile p = ds := by
    intro ds hds
    cases ds with
    | nil => rfl
    | cons d ds => exact List.dropWhile_cons_of_neg (by simp [hds d List.mem_cons_self])
  rw [stripChars, hdrop cs h, hdrop _ (fun c hc => h c (List.mem_reverse.1 hc)), List.reverse_reverse]

theorem toNat_of_isDigit {c : Char} (h : c.isDigit = true) : 48 ≤ c.toNat ∧ c.toNat ≤ 57 := by
  simpa [Char.isDigit, UInt32.le_iff_toNat_le] using h

theorem isSpace_of_isDigit {c : Char} (h : c.isDigit = true) : isSpace c = false := by
  obtain ⟨hlow, hhigh⟩ := toNat_of_isDigit h
  simp only [isSpace, List.contains_cons, List.contains_nil, Bool.or_eq_false_iff,
    Bool.and_eq_false_iff, decide_eq_false_iff_not, beq_eq_false_iff_ne, and_true]
  omega

theorem parseDigits_toDigits (n : Nat) : parseDigits (Nat.toDigits 10 n) = some (n : Int) := by
  have hdigits : ∀ c ∈ Nat.toDigits 10 n, c.isDigit = true := isDigit_toDigits
  have hmark : '_' ∉ Nat.toDigits 10 n := fun h => by cases hdigits '_' h
  have hall : (Nat.toDigits 10 n).all (·.isDigit) = true := List.all_eq_true.2 hdigits
  simp only [parseDigits, List.splitOn_eq_singleton hmark, List.all_cons, List.all_nil, hall,
    List.flatten_cons, List.flatten_nil, List.append_nil, Nat.ofDigitChars_ten_toDigits]
  simp [Nat.toDigits_ne_nil]

theorem parseInt_toDigits (n : Nat) : parseInt (Nat.toDigits 10 n) = some (n : Int) := by
  have hdigits : ∀ c ∈ Nat.toDigits 10 n, c.isDigit = true := isDigit_toDigits
  rw [parseInt, stripChars_of fun c hc => isSpace_of_isDigit (hdigits c hc)]
  split
  · next rest h => cases hdigits '-' (by rw [h]; exact List.mem_cons_self)
  · next rest h => cases hdigits '+' (by rw [h]; exact List.mem_cons_self)
  · exact parseDigits_toDigits n

def cursorChars (n : Nat) : List Char := cursorPrefix ++ ':' :: Nat.toDigits 10 n

theorem encodeCursor_toList (n : Nat) :
    (encodeCursor n).toList = Base64.encode ((cursorChars n).map (·.toNat)) := by
  have hchars : intChars (n : Int) = Nat.toDigits 10 n := by
    rw [intChars, if_neg (by omega), Int.natAbs_natCast]
  rw [encodeCursor, String.toList_ofList, hchars, cursorChars]

theorem cursorChars_ascii (n : Nat) : ∀ c ∈ cursorChars n, c.toNat < 128 := by
  intro c hc
  rcases List.mem_append.1 hc with hstart | hrest
  · have hall : cursorPrefix.all (fun c => decide (c.toNat < 128)) = true := by decide
    exact of_decide_eq_true (List.all_eq_true.1 hall c hstart)
  · rcases List.mem_cons.1 hrest with rfl | hdigit
    · decide
    · have hbounds := toNat_of_isDigit (isDigit_toDigits c hdigit)
      omega

theorem length_cursorChars {n : Nat} (h : n ≤ maxListLength) : (cursorChars n).length ≤ 28 := by
  have hdigits : (Nat.toDigits 10 n).length ≤ 19 := by
    refine (Nat.length_toDigits_le_iff (by decide) (by decide)).2 (lt_of_le_of_lt h ?_)
    decide
  have hstart : cursorPrefix.length = 8 := by decide
  rw [cursorChars, List.length_append, List.length_cons, hstart]
  omega

theorem split_cursorChars (n : Nat) :
    (cursorChars n).takeWhile (· ≠ ':') = cursorPrefix ∧
      (cursorChars n).dropWhile (· ≠ ':') = ':' :: Nat.toDigits 10 n := by
  have hstart : cursorPrefix.all (fun c => decide (c ≠ ':')) = true := by decide
  rw [cursorChars, List.takeWhile_append_of_pos (List.all_eq_true.1 hstart),
    List.dropWhile_append_of_pos (List.all_eq_true.1 hstart)]
  simp

theorem decodeCursor_encodeCursor {n : Nat} (h : n ≤ maxListLength) :
    decodeCursor (some (encodeCursor n)) = .ok (n : Int) := by
  have hchars := encodeCursor_toList n
  have hbytes : ∀ b ∈ (cursorChars n).map (·.toNat), b < 128 := by
    intro b hb
    obtain ⟨c, hc, rfl⟩ := List.mem_map.1 hb
    exact cursorChars_ascii n c hc
  have hshort := length_cursorChars h
  obtain ⟨hempty, hascii, hdecode⟩ := Base64.readable_encode
    (show (cursorChars n).map (·.toNat) ≠ [] by simp [cursorChars])
    (by rw [List.length_map]; omega) fun b hb => (hbytes b hb).trans (by decide)
  have hcursor : String.ofList (Base64.encode ((cursorChars n).map (·.toNat))) = encodeCursor n := by
    rw [← hchars, String.ofList_toList]
  rw [hcursor] at hempty hascii hdecode
  have hbytesAscii : ¬(((cursorChars n).map (·.toNat)).any fun b => 128 ≤ b) = true := by
    rw [List.any_eq_true]
    rintro ⟨b, hb, hlarge⟩
    have hsmall := hbytes b hb
    simp only [decide_eq_true_eq] at hlarge
    omega
  have hback : ((cursorChars n).map (·.toNat)).map Char.ofNat = cursorChars n := by
    simp [List.map_map, Function.comp_def]
  obtain ⟨htake, hdrop⟩ := split_cursorChars n
  simp only [decodeCursor, if_neg hempty, if_neg hascii, hdecode, if_neg hbytesAscii, hback, htake,
    hdrop, parseInt_toDigits]
  rw [if_neg]
  simp

theorem decodeCursor_cases (cursor : String) :
    decodeCursor (some cursor) = fail "INVALID_CURSOR" ∨
      ∃ n : Nat, decodeCursor (some cursor) = .ok (n : Int) ∧ cursor = encodeCursor n := by
  simp only [decodeCursor]
  split
  · exact Or.inl rfl
  · split
    · exact Or.inl rfl
    · split
      · exact Or.inl rfl
      · split
        · exact Or.inl rfl
        · split
          · split
            · exact Or.inl rfl
            · next sequence _ =>
              split
              · exact Or.inl rfl
              · next hchecks =>
                simp only [not_or, not_not, not_lt] at hchecks
                obtain ⟨n, rfl⟩ := Int.eq_ofNat_of_zero_le hchecks.2.1
                exact Or.inr ⟨n, rfl, hchecks.2.2.symm⟩
          · exact Or.inl rfl

/-! ## Stores -/

theorem Chained.sequence_le (h : Chained prim events) :
    ∀ event ∈ events, 1 ≤ event.sequence ∧ event.sequence ≤ events.length := by
  induction h with
  | nil => exact fun _ hmem => absurd hmem List.not_mem_nil
  | concat _ _ linked ih =>
    intro event hmem
    rw [List.length_append, List.length_singleton]
    rcases List.mem_append.1 hmem with hold | hnew
    · have hbounds := ih event hold
      omega
    · rw [List.mem_singleton.1 hnew, linked.sequence]
      omega

theorem Chained.nodup (h : Chained prim events) :
    (events.map (·.eventId)).Nodup := by
  induction h with
  | nil => exact List.nodup_nil
  | concat _ fresh _ ih =>
    rw [List.map_append, List.nodup_append]
    refine ⟨ih, List.nodup_singleton _, fun a ha b hb hab => fresh ?_⟩
    rw [List.map_singleton, List.mem_singleton] at hb
    rwa [← hb, ← hab]

theorem Chained.sorted (h : Chained prim events) :
    events.Pairwise fun a b => a.sequence < b.sequence := by
  induction h with
  | nil => exact List.Pairwise.nil
  | concat rest _ linked ih =>
    refine List.pairwise_append.2 ⟨ih, List.pairwise_singleton _ _, fun a ha b hb => ?_⟩
    rw [List.mem_singleton.1 hb, linked.sequence]
    have hbounds := rest.sequence_le a ha
    omega

/-- The store of a run: a chain that a list can hold. -/
structure Stored (prim : Primitives) (s : AuditEventStore) : Prop where
  consistent : Consistent prim s
  bounded : s.events.length ≤ maxListLength

theorem stored_next (h : Stored prim s) (draft : AuditEventDraft) :
    Stored prim ((machine prim).next s draft) ∧
      s.events <+: ((machine prim).next s draft).events := by
  have hspec := append_spec prim draft s
  unfold Post at hspec
  change Stored prim (append prim draft s).2 ∧ s.events <+: (append prim draft s).2.events
  rcases happend : append prim draft s with ⟨e | event, s'⟩ <;> simp only [happend] at hspec
  · subst hspec
    exact ⟨h, List.prefix_refl _⟩
  · obtain ⟨happended, rfl⟩ := hspec
    refine ⟨⟨h.consistent.append happended, ?_⟩, List.prefix_append _ _⟩
    have hbounded := happended.bounded
    rw [List.length_append, List.length_singleton]
    omega

theorem stored_runFrom (h : Stored prim s) (drafts : List AuditEventDraft) :
    Stored prim ((machine prim).runFrom s drafts) ∧
      s.events <+: ((machine prim).runFrom s drafts).events := by
  refine (machine prim).runFrom_induction
    (I := fun s' => Stored prim s' ∧ s.events <+: s'.events) ?_ ⟨h, List.prefix_refl _⟩ drafts
  rintro s' draft ⟨hstored, hstart⟩
  have hnext := stored_next hstored draft
  exact ⟨hnext.1, hstart.trans hnext.2⟩

theorem stored_run (prim : Primitives) (drafts : List AuditEventDraft) :
    Stored prim ((machine prim).run drafts) :=
  (stored_runFrom ⟨⟨.nil, rfl⟩, Nat.zero_le _⟩ drafts).1

theorem Stored.decodeCursor (h : Stored prim s) {event : AuditEvent} (hmem : event ∈ s.events) :
    decodeCursor (some (encodeCursor event.sequence)) = .ok event.sequence := by
  have hbounds := h.consistent.chained.sequence_le event hmem
  obtain ⟨n, hn⟩ := Int.eq_ofNat_of_zero_le (by omega : 0 ≤ event.sequence)
  rw [hn]
  refine decodeCursor_encodeCursor ?_
  have hbounded := h.bounded
  omega

/-! ## Pages -/

abbrev remaining (q : Query) (k : Int) (events : List AuditEvent) : List AuditEvent :=
  Pages.after (·.sequence) q.Matches k events

abbrev nextSequence (q : Query) (k : Int) (events : List AuditEvent) : Option Int :=
  Pages.next (·.sequence) q.Matches q.limit.toNat k events

theorem limit_of_validateQuery (h : validateQuery q = .ok ()) :
    1 ≤ q.limit ∧ q.limit ≤ maxPageLimit := by
  obtain ⟨_, -, h⟩ := bind_eq_ok.1 h
  obtain ⟨_, -, h⟩ := bind_eq_ok.1 h
  obtain ⟨_, -, h⟩ := bind_eq_ok.1 h
  obtain ⟨_, -, h⟩ := bind_eq_ok.1 h
  obtain ⟨_, -, h⟩ := bind_eq_ok.1 h
  obtain ⟨_, -, h⟩ := bind_eq_ok.1 h
  split at h
  · cases h
  · split at h
    · cases h
    · next hlimit => exact not_not.1 hlimit

theorem list_eq_ok {page : AuditPage} :
    list q cursor s = .ok page ↔
      validateQuery q = .ok () ∧ ∃ k, Audit.decodeCursor cursor = .ok k ∧
        page = ⟨(remaining q k s.events).take q.limit.toNat,
          (nextSequence q k s.events).map encodeCursor⟩ := by
  have hpage : ∀ k, 1 ≤ q.limit →
      (if q.limit < ((remaining q k s.events).length : Int) then
        ((remaining q k s.events).take q.limit.toNat).getLast?.map (encodeCursor ·.sequence)
      else none) = (nextSequence q k s.events).map encodeCursor := by
    intro k hlimit
    have hlt : q.limit < ((remaining q k s.events).length : Int) ↔
        q.limit.toNat < (remaining q k s.events).length := by omega
    rw [nextSequence, Pages.next]
    by_cases h : q.limit.toNat < (remaining q k s.events).length
    · rw [if_pos (hlt.2 h), if_pos h, Option.map_map]
      rfl
    · rw [if_neg (fun hlong => h (hlt.1 hlong)), if_neg h]
      rfl
  constructor
  · intro h
    obtain ⟨_, hq, h⟩ := bind_eq_ok.1 h
    obtain ⟨k, hk, h⟩ := bind_eq_ok.1 h
    refine ⟨hq, k, hk, ?_⟩
    rw [← Except.ok.inj h, ← hpage k (limit_of_validateQuery hq).1]
    rfl
  · rintro ⟨hq, k, hk, rfl⟩
    refine bind_eq_ok.2 ⟨(), hq, bind_eq_ok.2 ⟨k, hk, ?_⟩⟩
    rw [← hpage k (limit_of_validateQuery hq).1]
    rfl

/-- Page after page is read from a cursor on, with a list of drafts appended after each one, up to a
page that has no cursor: the events that are returned, and the store that has the last page. -/
inductive Walk (prim : Primitives) (q : Query) : List (List AuditEventDraft) → AuditEventStore →
    Option String → List AuditEvent → AuditEventStore → Prop where
  | last {growth : List (List AuditEventDraft)} {s : AuditEventStore} {cursor : Option String}
      {page : AuditPage} (read : list q cursor s = .ok page) (done : page.nextCursor = none) :
      Walk prim q growth s cursor page.items s
  | more {growth : List (List AuditEventDraft)} {s final : AuditEventStore}
      {cursor : Option String} {page : AuditPage} {next : String} {items : List AuditEvent}
      (read : list q cursor s = .ok page) (continues : page.nextCursor = some next)
      (rest : Walk prim q growth.tail ((machine prim).runFrom s (growth.headD [])) (some next) items
        final) :
      Walk prim q growth s cursor (page.items ++ items) final

theorem nextCursor_of_list
    {page : AuditPage} {next : String} (hstored : Stored prim s) (h : list q cursor s = .ok page)
    (hnext : page.nextCursor = some next) :
    ∃ event ∈ page.items, page.items.getLast? = some event ∧ next = encodeCursor event.sequence ∧
      decodeCursor (some next) = .ok event.sequence ∧
      ∃ k, decodeCursor cursor = .ok k ∧ nextSequence q k s.events = some event.sequence := by
  obtain ⟨-, k, hk, rfl⟩ := list_eq_ok.1 h
  obtain ⟨sequence, hsequence, rfl⟩ := Option.map_eq_some_iff.1 hnext
  obtain ⟨-, event, hlast, rfl⟩ := Pages.of_next hsequence
  have hpage := List.mem_of_getLast? hlast
  have hmem : event ∈ s.events := (List.mem_filter.1 (List.mem_of_mem_take hpage)).1
  exact ⟨event, hpage, hlast, rfl, hstored.decodeCursor hmem, k, hk, hsequence⟩

theorem Walk.pages (h : Walk prim q growth s cursor items final)
    (hstored : Stored prim s) {k : Int} (hk : decodeCursor cursor = .ok k) :
    Pages.Walk (·.sequence) q.Matches q.limit.toNat s.events k items final.events ∧
      Stored prim final := by
  induction h generalizing k with
  | last read done =>
    obtain ⟨-, k', hk', rfl⟩ := list_eq_ok.1 read
    obtain rfl : k' = k := Except.ok.inj (hk'.symm.trans hk)
    exact ⟨.last (Option.map_eq_none_iff.1 done), hstored⟩
  | @more growth s final cursor page next items read continues rest ih =>
    obtain ⟨event, -, -, -, hdecode, k', hk', hnext⟩ := nextCursor_of_list hstored read continues
    obtain rfl : k' = k := Except.ok.inj (hk'.symm.trans hk)
    obtain ⟨-, k'', hk'', rfl⟩ := list_eq_ok.1 read
    obtain rfl : k'' = k' := Except.ok.inj (hk''.symm.trans hk)
    have hgrown := stored_runFrom hstored (growth.headD [])
    obtain ⟨hrest, hfinal⟩ := ih hgrown.1 hdecode
    exact ⟨.more hnext hgrown.2 hrest, hfinal⟩

theorem exists_page (hq : validateQuery q = .ok ()) (s : AuditEventStore)
    {k : Int} (hk : decodeCursor cursor = .ok k) :
    ∃ page, list q cursor s = .ok page :=
  ⟨_, list_eq_ok.2 ⟨hq, k, hk, rfl⟩⟩

theorem exists_walk_of_no_growth (hq : validateQuery q = .ok ())
    (hstored : Stored prim s) {k : Int} (hk : decodeCursor cursor = .ok k) :
    ∃ items final, Walk prim q [] s cursor items final := by
  induction hleft : (remaining q k s.events).length using Nat.strong_induction_on
    generalizing cursor k with
  | _ left ih =>
    obtain ⟨page, hpage⟩ := exists_page hq s hk
    cases hnext : page.nextCursor with
    | none => exact ⟨page.items, s, .last hpage hnext⟩
    | some next =>
      obtain ⟨event, -, -, -, hdecode, k', hk', hsequence⟩ := nextCursor_of_list hstored hpage hnext
      obtain rfl : k' = k := Except.ok.inj (hk'.symm.trans hk)
      have hlimit := limit_of_validateQuery hq
      have hless := Pages.length_after_lt (by omega) hstored.consistent.chained.sorted hsequence
      rw [hleft] at hless
      obtain ⟨items, final, hrest⟩ := ih _ hless hdecode rfl
      exact ⟨page.items ++ items, final, .more hpage hnext hrest⟩

theorem exists_walk (hq : validateQuery q = .ok ())
    (growth : List (List AuditEventDraft)) (hstored : Stored prim s)
    {k : Int} (hk : decodeCursor cursor = .ok k) :
    ∃ items final, Walk prim q growth s cursor items final := by
  induction growth generalizing s cursor k with
  | nil => exact exists_walk_of_no_growth hq hstored hk
  | cons drafts growth ih =>
    obtain ⟨page, hpage⟩ := exists_page hq s hk
    cases hnext : page.nextCursor with
    | none => exact ⟨page.items, s, .last hpage hnext⟩
    | some next =>
      obtain ⟨event, -, -, -, hdecode, -⟩ := nextCursor_of_list hstored hpage hnext
      obtain ⟨items, final, hrest⟩ := ih (stored_runFrom hstored drafts).1 hdecode
      exact ⟨page.items ++ items, final, .more hpage hnext hrest⟩

theorem Walk.items_eq (h : Walk prim q growth s none items final)
    (hstored : Stored prim s) (hlimit : 1 ≤ q.limit) : items = final.events.filter q.Matches := by
  obtain ⟨hpages, hfinal⟩ := h.pages hstored rfl
  have hchained := hfinal.consistent.chained
  rw [hpages.items_eq (by omega) hchained.sorted]
  refine List.filter_congr fun event hmem => ?_
  have hbounds := hchained.sequence_le event hmem
  have hpos : 0 < event.sequence := by omega
  simp only [hpos, decide_true, Bool.true_and]

theorem Walk.validateQuery (h : Walk prim q growth s cursor items final) : validateQuery q = .ok () := by
  cases h with
  | last read _ => exact (list_eq_ok.1 read).1
  | more read _ _ => exact (list_eq_ok.1 read).1

/-- Reading a store of any history in pages: the pages come to an end, and are what the store of the last
one has, each event once and in order. A cursor that a page returns is accepted and is its last event's;
no string but the encoding of a number is accepted. -/
theorem pages_of_run (prim : Primitives) (drafts : List AuditEventDraft) (q : Query) :
    let s := (machine prim).run drafts
    (Audit.validateQuery q = .ok () → ∀ growth, ∃ items final, Walk prim q growth s none items final) ∧
      (∀ growth items final, Walk prim q growth s none items final →
        items = final.events.filter q.Matches ∧
          (items.Pairwise fun a b => a.sequence < b.sequence) ∧ (items.map (·.eventId)).Nodup) ∧
      (∀ cursor page next, list q cursor s = .ok page → page.nextCursor = some next →
        ∃ event, page.items.getLast? = some event ∧ next = encodeCursor event.sequence ∧
          decodeCursor (some next) = .ok event.sequence) ∧
      ∀ cursor : String, (∀ n : Nat, cursor ≠ encodeCursor n) →
        decodeCursor (some cursor) = fail "INVALID_CURSOR" := by
  intro s
  have hstored := stored_run prim drafts
  refine ⟨fun hq growth => exists_walk hq growth hstored rfl, ?_, ?_, ?_⟩
  · intro growth items final h
    have hlimit := limit_of_validateQuery h.validateQuery
    have hchained := (h.pages hstored rfl).2.consistent.chained
    rw [h.items_eq hstored hlimit.1]
    refine ⟨rfl, hchained.sorted.filter _, ?_⟩
    exact hchained.nodup.sublist (List.filter_sublist.map _)
  · intro cursor page next h hnext
    obtain ⟨event, -, hlast, hencode, hdecode, -⟩ := nextCursor_of_list hstored h hnext
    exact ⟨event, hlast, hencode, hdecode⟩
  · intro cursor h
    rcases decodeCursor_cases cursor with hfail | ⟨n, -, hn⟩
    · exact hfail
    · exact absurd hn (h n)

end DaonUser.Audit
