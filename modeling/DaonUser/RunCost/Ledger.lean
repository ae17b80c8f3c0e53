import DaonUser.Lib.Turns
import DaonUser.RunCost.Amounts

/-!
# The ledger keeps to the budget

Whatever calls run beside each other on a run, its ledger is a sequence of reservations that are settled
with a known charge each, and at the end perhaps one that is not settled or has an uncertain outcome
(`Ledger`). All of `LedgerLaw` is read off this shape, apart from the bound on a charge, which needs
`CeilingKept`.
-/

namespace DaonUser.RunCost

open Lib Program
open Recovery (isSetting)

variable {settings : CostSettings} {p : Json Numeric} {c : SettleCall} {reserved : EventRow}

variable {P : Type} [DecidableEq P] {run : RunKey} {timestamptz : String → Option Int}
  {others : Surroundings}

/-! ## What the calls do to the ledger -/

def seen (run : RunKey) (settings : CostSettings) (events : List EventRow) : List EventRow :=
  events.filter (inCostScope run settings)

def grantedEvent (run : RunKey) (c : ReserveCall) (i : String) (p : Json Numeric) (ib ob : Int)
    (events : List EventRow) (amount : Int) : EventRow :=
  reservedEvent c i p ib ob ((textAt "version" (cardOf p)).getD "")
    (nextSequence (seen run c.settings events)) amount

structure Inserts (run : RunKey) (settings : CostSettings) (events : List EventRow) (new : EventRow) :
    Prop where
  scope : inCostScope run settings new = true
  checks : new.Checks run
  admits : ∀ e ∈ events, e.sequence ≠ new.sequence ∧
    ¬(e.attemptKey = new.attemptKey ∧ e.state = new.state) ∧
    ¬(e.receiptId ≠ none ∧ e.receiptId = new.receiptId)

structure Granted (run : RunKey) (timestamptz : String → Option Int) (c : ReserveCall)
    (events : List EventRow) (i : String) (p : Json Numeric) (ib ob amount : Int) : Prop where
  call : c.policy = some p ∧ c.inputBound = some ib ∧ c.outputLimit = some ob
  confirmed : policyConfirmed run timestamptz c = some true
  fresh : (seen run c.settings events).any (·.attemptKey = i) = false
  frozen : ∀ f ∈ frozenPolicy (seen run c.settings events), Jsonb.equal (·.value = ·.value) f p = true
  settled : unsettled (seen run c.settings events) = false
  budget : ofColumn (knownTotal (seen run c.settings events)) + (maximumAmount ib ob (cardOf p)).value ≤
    ((limitAt p).div (.ofInt 100)).value
  column : toColumn (maximumAmount ib ob (cardOf p)) = some amount
  inserts : Inserts run c.settings events (grantedEvent run c i p ib ob events amount)

def settledEvent (run : RunKey) (c : SettleCall) (reserved : EventRow) (events : List EventRow)
    (amount : Option Int) : EventRow :=
  terminalEvent c reserved (nextSequence (seen run c.settings events)) amount

structure Closed (run : RunKey) (c : SettleCall) (events : List EventRow) (reserved : EventRow)
    (amount : Option Int) : Prop where
  reservation : (seen run c.settings events).find? c.isReservation = some reserved
  valid : c.Valid reserved
  first : (seen run c.settings events).find? c.isTerminal = none
  column : (c.settlement reserved).amount.map (fun n => toColumn n) = amount.map some
  inserts : Inserts run c.settings events (settledEvent run c reserved events amount)

inductive Turn (run : RunKey) (timestamptz : String → Option Int) :
    CostCall → CostAnswer → Hold (List EventRow) → Prop where
  | refused (c : ReserveCall) (events : List EventRow) (row : ReserveRow) (h : row.state ≠ "reserved") :
      Turn run timestamptz (.reserve c) (.reserve row) (.held events events)
  | granted (c : ReserveCall) (events : List EventRow) (i : String) (p : Json Numeric)
      (ib ob amount : Int) (row : ReserveRow) (h : Granted run timestamptz c events i p ib ob amount) :
      Turn run timestamptz (.reserve c) (.reserve row)
        (.held events (events ++ [grantedEvent run c i p ib ob events amount]))
  | repeated (c : SettleCall) (events : List EventRow) (sequence : Nat) :
      Turn run timestamptz (.settle c) (.settle sequence) (.held events events)
  | closed (c : SettleCall) (events : List EventRow) (reserved : EventRow) (amount : Option Int)
      (sequence : Nat) (h : Closed run c events reserved amount) :
      Turn run timestamptz (.settle c) (.settle sequence)
        (.held events (events ++ [settledEvent run c reserved events amount]))
  | changed (write : Surroundings → Surroundings) : Turn run timestamptz (.change write) .done .free

section Meets

variable {pre : List EventRow → Prop} {hold : Hold (List EventRow)} {events : List EventRow}

theorem ensureAllowed_meets {actorId : String} {Q : Unit → Hold (List EventRow) → Prop} (hq : Q () hold) :
    (ensureAllowed run settings actorId).Meets .run (·.events) pre Q hold := by
  unfold ensureAllowed
  cases hold with
  | free =>
    simp only [meets_bind, meets_read_free, meets_ensure]
    exact fun _ _ => hq
  | held before now =>
    simp only [meets_bind, meets_read_held, meets_ensure]
    exact fun _ _ _ => hq

theorem insertEvent_meets {guardedAt : Int} {new : EventRow}
    {before : List EventRow} {Q : Unit → Hold (List EventRow) → Prop}
    (hq : Inserts run settings events new → Q () (.held before (events ++ [new]))) :
    (insertEvent run settings guardedAt new).Meets .run (·.events) pre Q (.held before events) := by
  unfold insertEvent
  rw [meets_bind]
  refine ensureAllowed_meets ?_
  simp only [meets_bind, meets_ensure]
  intro _ hscope hchecks
  refine meets_insert_admitted (fun s hs => by rw [hs]) fun v hv hadmits => ?_
  subst hv
  exact hq ⟨hscope, hchecks, hadmits⟩

theorem reserve_meets (c : ReserveCall) :
    (reserve run timestamptz c).Meets .run (·.events) (fun _ => True)
      (fun row hold => Turn run timestamptz (.reserve c) (.reserve row) hold) .free := by
  have hrefused : ∀ events state safeCode, state ≠ "reserved" →
      Turn run timestamptz (.reserve c) (.reserve (.refused state safeCode)) (.held events events) :=
    fun events state safeCode h => .refused c events _ h
  unfold reserve
  rw [meets_bind]
  refine ensureAllowed_meets ?_
  simp only [meets_bind, meets_ensure, meets_readLocked_free]
  refine fun _ v => ⟨fun hfree => absurd (List.mem_singleton_self _) hfree, fun _ _ => ?_⟩
  refine ensureAllowed_meets ?_
  rw [meets_require]
  intro confirmed hconfirmed
  generalize v.events = events
  split
  · next i p ib ob _ hp hib hob =>
    simp only [meets_bind, meets_read_held]
    rintro r rfl
    simp only [meets_ite, meets_pure, meets_bind, meets_read_held]
    refine ⟨fun _ => hrefused _ _ _ (by decide), fun hfresh r hr => ?_⟩
    refine ⟨fun _ => hrefused _ _ _ (by decide), fun hfrozen r' hr' => ?_⟩
    refine ⟨fun _ => hrefused _ _ _ (by decide), fun hsettled r'' hr'' => ?_⟩
    simp only [meets_require]
    refine ⟨fun _ => hrefused _ _ _ (by decide), fun hbudget amount hamount => ?_⟩
    rw [visible, hr] at hfrozen
    rw [visible, hr'] at hsettled
    rw [visible, hr''] at hbudget ⊢
    refine insertEvent_meets fun hinserts => ?_
    refine .granted c _ i p ib ob amount _ ⟨⟨hp, hib, hob⟩, hconfirmed, ?_, ?_, ?_, ?_, hamount, hinserts⟩
    · exact Bool.eq_false_iff.2 hfresh
    · intro f hf
      by_contra hne
      exact hfrozen ((Option.any_eq_true _ _).2 ⟨f, hf, by simpa using hne⟩)
    · exact Bool.eq_false_iff.2 hsettled
    · exact not_lt.1 hbudget
  · rw [meets_pure]
    exact hrefused _ _ _ (by decide)

theorem amountColumn_meets {n : Option Numeric} {Q : Option Int → Hold (List EventRow) → Prop}
    (hq : ∀ amount, n.map (fun n => toColumn n) = amount.map some → Q amount hold) :
    (amountColumn n).Meets .run (·.events) pre Q hold := by
  cases n with
  | none =>
    rw [amountColumn, meets_pure]
    exact hq none rfl
  | some n =>
    simp only [amountColumn, meets_bind, meets_require, meets_pure]
    exact fun amount hamount => hq (some amount) (congrArg some hamount)

variable (timestamptz) in
theorem settle_meets (c : SettleCall) :
    (settle run c).Meets .run (·.events) (fun _ => True)
      (fun sequence hold => Turn run timestamptz (.settle c) (.settle sequence) hold) .free := by
  unfold settle
  rw [meets_bind]
  refine ensureAllowed_meets ?_
  simp only [meets_bind, meets_readLocked_free]
  refine fun v => ⟨fun hfree => absurd (List.mem_singleton_self _) hfree, fun _ _ => ?_⟩
  generalize v.events = events
  simp only [meets_read_held, meets_require, meets_ensure]
  rintro r rfl reserved hreserved hvalid r' hr'
  split
  · rw [meets_bind, meets_ensure, meets_pure]
    exact fun _ => .repeated c _ _
  · next hfirst =>
    simp only [meets_bind, meets_read_held, meets_pure]
    intro r'' hr''
    refine amountColumn_meets fun amount hamount => ?_
    rw [visible, hr'] at hfirst
    rw [visible, hr'']
    refine insertEvent_meets fun hinserts => ?_
    exact .closed c _ reserved amount _ ⟨hreserved, hvalid, hfirst, hamount, hinserts⟩

theorem program_meets (call : CostCall) :
    (call.program run timestamptz).Meets .run (·.events) (fun _ => True) (Turn run timestamptz call)
      .free := by
  cases call with
  | reserve c =>
    rw [CostCall.program, meets_bind]
    refine (reserve_meets c).mono fun row hold h => ?_
    rw [meets_pure]
    exact h
  | settle c =>
    rw [CostCall.program, meets_bind]
    refine (settle_meets timestamptz c).mono fun sequence hold h => ?_
    rw [meets_pure]
    exact h
  | change write =>
    rw [CostCall.program, meets_bind]
    have hignores : (Program.write (fun _ => []) fun rows => { rows with others := write rows.others } :
        Op Unit).Ignores .run (·.events) := ignores_write (fun _ => List.not_mem_nil) fun _ => rfl
    exact hignores.meets fun _ => meets_pure.2 (.changed write)

end Meets

/-! ## The shape of a ledger -/

def EventRow.billionths (e : EventRow) : Int := e.amount.getD 0

/-- A reservation that is granted after these events. -/
structure Reserves (run : RunKey) (before : List EventRow) (r : EventRow) : Prop where
  sequence : r.sequence = before.length + 1
  state : r.state = .reserved
  actor : ∀ e ∈ before, e.actorId = r.actorId
  fresh : ∀ e ∈ before, e.attemptKey ≠ r.attemptKey
  limit : ∀ e ∈ before, limitAt e.policy = limitAt r.policy
  policy : PolicyFields run r.actorId r.policy ∧ CardFields (cardOf r.policy) ∧
    BoundsValid (some r.inputTokenUpperBound) (some r.outputTokenLimit)
  amount : r.amount = some r.billionths
  nonneg : 0 ≤ r.billionths
  maximum : ofColumn r.billionths =
    (maximumAmount r.inputTokenUpperBound r.outputTokenLimit (cardOf r.policy)).value
  budget : ofColumn (knownTotal before + r.billionths) ≤ (limitAt r.policy).value / 100

/-- A terminal event of a reservation. -/
structure Settles (r t : EventRow) : Prop where
  sequence : t.sequence = r.sequence + 1
  actor : t.actorId = r.actorId
  attempt : t.attemptKey = r.attemptKey
  policy : t.policy = r.policy
  outcome : t.state = .known ∧ 0 ≤ t.billionths ∧ t.billionths ≤ r.billionths ∨
    t.state = .uncertain ∧ t.amount = none

/-- Reservations with a known charge each. -/
inductive Quiet (run : RunKey) : List EventRow → Prop where
  | empty : Quiet run []
  | charged {events : List EventRow} {r t : EventRow} (h : Quiet run events)
      (hr : Reserves run events r) (ht : Settles r t) (hknown : t.state = .known) :
      Quiet run (events ++ [r, t])

/-- … and perhaps one at the end that has none. -/
inductive Ledger (run : RunKey) : List EventRow → Prop where
  | quiet {events : List EventRow} (h : Quiet run events) : Ledger run events
  | outstanding {events : List EventRow} {r : EventRow} (h : Quiet run events)
      (hr : Reserves run events r) : Ledger run (events ++ [r])
  | uncertain {events : List EventRow} {r t : EventRow} (h : Quiet run events)
      (hr : Reserves run events r) (ht : Settles r t) (huncertain : t.state = .uncertain) :
      Ledger run (events ++ [r, t])

section Shape

variable {events : List EventRow} {r t : EventRow}

theorem Settles.terminal (h : Settles r t) : t.state ≠ .reserved := by
  rcases h.outcome with houtcome | houtcome
  · rw [houtcome.1]
    decide
  · rw [houtcome.1]
    decide

structure Numbered (events : List EventRow) : Prop where
  sequences : events.map (·.sequence) = List.range' 1 events.length
  actors : ∀ e ∈ events, ∀ e' ∈ events, e.actorId = e'.actorId

theorem Numbered.append (h : Numbered events) (hsequence : r.sequence = events.length + 1)
    (hactor : ∀ e ∈ events, e.actorId = r.actorId) : Numbered (events ++ [r]) where
  sequences := by
    rw [List.map_append, h.sequences, List.map_singleton, List.length_append, List.length_singleton,
      List.range'_concat, hsequence]
    simp [Nat.add_comm]
  actors := by
    have hall : ∀ e ∈ events ++ [r], e.actorId = r.actorId := by
      intro e he
      rcases List.mem_append.1 he with he | he
      · exact hactor e he
      · rw [List.mem_singleton.1 he]
    exact fun e he e' he' => (hall e he).trans (hall e' he').symm

theorem Numbered.reserves (h : Numbered events) (hr : Reserves run events r) :
    Numbered (events ++ [r]) := h.append hr.sequence hr.actor

theorem Numbered.settles (h : Numbered events) (hr : Reserves run events r) (ht : Settles r t) :
    Numbered (events ++ [r, t]) := by
  have hsplit : events ++ [r, t] = (events ++ [r]) ++ [t] := by simp
  have hfirst := h.reserves hr
  rw [hsplit]
  refine hfirst.append ?_ fun e he => ?_
  · rw [ht.sequence, hr.sequence, List.length_append, List.length_singleton]
  · rw [hfirst.actors e he r (by simp), ht.actor]

theorem Quiet.numbered (h : Quiet run events) : Numbered events := by
  induction h with
  | empty => exact ⟨rfl, fun e he => by cases he⟩
  | charged h hr ht hknown ih => exact ih.settles hr ht

theorem Ledger.numbered (h : Ledger run events) : Numbered events := by
  cases h with
  | quiet h => exact h.numbered
  | outstanding h hr => exact h.numbered.reserves hr
  | uncertain h hr ht _ => exact h.numbered.settles hr ht

theorem Quiet.charges (h : Quiet run events) :
    ∀ e ∈ events, e.state ≠ .uncertain ∧
      ∃ z ∈ events, z.attemptKey = e.attemptKey ∧ z.state = .known := by
  induction h with
  | empty => exact fun e he => by cases he
  | @charged events r t h hr ht hknown ih =>
    intro e he
    rcases List.mem_append.1 he with he | he
    · obtain ⟨hstate, z, hz, hkey⟩ := ih e he
      exact ⟨hstate, z, List.mem_append_left _ hz, hkey⟩
    · rcases List.mem_cons.1 he with rfl | he
      · exact ⟨by rw [hr.state]; decide, t, by simp, ht.attempt, hknown⟩
      · rw [List.mem_singleton.1 he]
        exact ⟨by rw [hknown]; decide, t, by simp, rfl, hknown⟩

theorem unsettled_iff : unsettled events = true ↔ ∃ e ∈ events, e.state = .uncertain ∨
    e.state = .reserved ∧ ∀ z ∈ events, ¬(z.attemptKey = e.attemptKey ∧ z.state = .known) := by
  simp [unsettled]

theorem Ledger.quiet_of (h : Ledger run events) (hsettled : unsettled events = false) :
    Quiet run events := by
  rw [Bool.eq_false_iff, ne_eq, unsettled_iff] at hsettled
  cases h with
  | quiet h => exact h
  | @outstanding events r h hr =>
    refine absurd ⟨r, by simp, .inr ⟨hr.state, fun z hz hknown => ?_⟩⟩ hsettled
    rcases List.mem_append.1 hz with hz | hz
    · exact hr.fresh z hz hknown.1
    · rw [List.mem_singleton.1 hz, hr.state] at hknown
      cases hknown.2
  | @uncertain events r t h hr ht huncertain =>
    exact absurd ⟨t, by simp, .inl huncertain⟩ hsettled

theorem Numbered.nextSequence (h : Numbered events) : nextSequence events = events.length + 1 := by
  have hmax : ∀ n s, (List.range' (s + 1) n).foldr max 0 ≤ s + n ∧
      (0 < n → (List.range' (s + 1) n).foldr max 0 = s + n) := by
    intro n
    induction n with
    | zero => simp
    | succ n ih =>
      intro s
      obtain ⟨hle, heq⟩ := ih (s + 1)
      rw [List.range'_succ, List.foldr_cons]
      rcases Nat.eq_zero_or_pos n with rfl | hn
      · simp
      · rw [heq hn]
        omega
  rw [RunCost.nextSequence, h.sequences]
  rcases Nat.eq_zero_or_pos events.length with hzero | hpos
  · rw [hzero]
    rfl
  · rw [(hmax _ 0).2 hpos, Nat.zero_add]

theorem Numbered.seen_eq {new : EventRow} (h : Numbered events) (hinserts : Inserts run settings events new)
    (hnext : new.sequence = RunCost.nextSequence (seen run settings events)) :
    seen run settings events = events := by
  have hscope := hinserts.scope
  simp only [inCostScope, Bool.and_eq_true, isSetting, decide_eq_true_eq] at hscope
  obtain ⟨⟨⟨htenant, htenant'⟩, hworkspace, hworkspace'⟩, hactor, hactor'⟩ := hscope
  have hvisible : ∀ e, inCostScope run settings e = true ↔ e.actorId = settings.actorId := by
    intro e
    simp [inCostScope, isSetting, htenant, htenant', hworkspace, hworkspace', hactor]
  by_cases hsame : ∀ e ∈ events, e.actorId = settings.actorId
  · exact List.filter_eq_self.2 fun e he => (hvisible e).2 (hsame e he)
  · -- another actor sees nothing of the ledger, and its event would be the first one again
    push Not at hsame
    obtain ⟨e, he, hother⟩ := hsame
    have hnone : seen run settings events = [] := by
      refine List.filter_eq_nil_iff.2 fun e' he' hseen => hother ?_
      rw [h.actors e he e' he']
      exact (hvisible e').1 hseen
    rw [hnone] at hnext
    obtain ⟨first, rest, rfl⟩ := List.exists_cons_of_ne_nil (List.ne_nil_of_mem he)
    have hfirst : first.sequence = 1 := by
      have hsequences := h.sequences
      rw [List.map_cons, List.length_cons, List.range'_succ] at hsequences
      exact (List.cons.inj hsequences).1
    exact absurd (hfirst.trans hnext.symm) (hinserts.admits first List.mem_cons_self).1

theorem Quiet.limits (h : Quiet run events) :
    ∀ e ∈ events, ∀ e' ∈ events, limitAt e.policy = limitAt e'.policy ∧
      PolicyFields run e.actorId e.policy := by
  induction h with
  | empty => exact fun e he => by cases he
  | @charged events r t h hr ht hknown ih =>
    have hall : ∀ e ∈ events ++ [r, t],
        limitAt e.policy = limitAt r.policy ∧ PolicyFields run e.actorId e.policy := by
      intro e he
      rcases List.mem_append.1 he with he | he
      · exact ⟨hr.limit e he, (ih e he e he).2⟩
      · rcases List.mem_cons.1 he with rfl | he
        · exact ⟨rfl, hr.policy.1⟩
        · rw [List.mem_singleton.1 he, ht.policy, ht.actor]
          exact ⟨rfl, hr.policy.1⟩
    exact fun e he e' he' => ⟨(hall e he).1.trans (hall e' he').1.symm, (hall e he).2⟩

theorem Numbered.frozenPolicy (h : Numbered events) :
    frozenPolicy events = events.head?.map (·.policy) := by
  have hsorted : (events.map (·.sequence)).Pairwise (· ≤ ·) := by
    rw [h.sequences]
    exact List.pairwise_le_range'
  have hevents : events.Pairwise fun e e' => e.sequence ≤ e'.sequence := List.pairwise_map.1 hsorted
  rw [RunCost.frozenPolicy, hevents.insertionSort_eq]

end Shape

section Steps

variable {events : List EventRow}

theorem confirmed_iff {c : ReserveCall} {ib ob : Int} (hp : c.policy = some p)
    (hib : c.inputBound = some ib) (hob : c.outputLimit = some ob) :
    policyConfirmed run timestamptz c = some true ↔ (PolicyFields run c.actorId p ∧
      CardFields (cardOf p) ∧ BoundsValid (some ib) (some ob)) ∧
        cardCurrent timestamptz c.stamp (cardOf p) = some true := by
  unfold policyConfirmed
  rw [hp, hib, hob]
  dsimp only
  split
  · next h => exact ⟨fun hcurrent => ⟨h, hcurrent⟩, fun hboth => hboth.2⟩
  · next h => exact ⟨fun hfalse => by simp at hfalse, fun hboth => absurd hboth.1 h⟩

theorem Ledger.granted {c : ReserveCall} {i : String} {ib ob amount : Int}
    (h : Ledger run events) (hgranted : Granted run timestamptz c events i p ib ob amount) :
    Quiet run events ∧ Reserves run events (grantedEvent run c i p ib ob events amount) := by
  have hseen : seen run c.settings events = events := h.numbered.seen_eq hgranted.inserts rfl
  obtain ⟨⟨hp, hib, hob⟩, hconfirmed, hfresh, hfrozen, hsettled, hbudget, hcolumn, hinserts⟩ := hgranted
  obtain ⟨⟨hfields, hcard, hbounds⟩, -⟩ := (confirmed_iff hp hib hob).1 hconfirmed
  rw [hseen] at hfresh hfrozen hsettled hbudget
  have hquiet := h.quiet_of hsettled
  have hsequence : (grantedEvent run c i p ib ob events amount).sequence = events.length + 1 := by
    change nextSequence (seen run c.settings events) = _
    rw [hseen, h.numbered.nextSequence]
  have hlimit : ∀ e ∈ events, limitAt e.policy = limitAt p := by
    intro e he
    obtain ⟨first, rest, rfl⟩ := List.exists_cons_of_ne_nil (List.ne_nil_of_mem he)
    have hfirst := hquiet.limits first List.mem_cons_self
    have hequal := hfrozen first.policy (by simp [h.numbered.frozenPolicy])
    rw [← limitAt_of_equal (hfirst e he).2 hfields hequal]
    exact ((hfirst e he).1).symm
  have hnonneg : 0 ≤ amount := by
    have hchecks := hinserts.checks.2.2.2.2.2.2.2
    simpa [grantedEvent, reservedEvent] using hchecks.1.1
  obtain ⟨n, hn, hlimitAt, -⟩ := limitAt_eq hfields
  refine ⟨hquiet, hsequence, rfl, ?_, ?_, hlimit, ⟨hfields, hcard, hbounds⟩, rfl,
    hnonneg, ofColumn_maximum hcolumn, ?_⟩
  · intro e he
    have hscope : ∀ e, inCostScope run c.settings e = true → e.actorId = c.settings.actorId := by
      intro e hscope
      simp only [inCostScope, Bool.and_eq_true, isSetting, decide_eq_true_eq] at hscope
      exact hscope.2.2
    rw [hscope _ hinserts.scope]
    exact hscope e (List.mem_filter.1 (hseen ▸ he)).2
  · intro e he hkey
    rw [List.any_eq_false] at hfresh
    exact hfresh e he (decide_eq_true hkey)
  · change ofColumn (knownTotal events + amount) ≤ (limitAt p).value / 100
    rw [ofColumn_add, ofColumn_maximum hcolumn, hlimitAt, Numeric.value_ofInt, Int.cast_natCast]
    rwa [hlimitAt, value_limit_div hn] at hbudget

theorem Ledger.outstanding_of (h : Ledger run events)
    (hreservation : events.find? c.isReservation = some reserved)
    (hfirst : events.find? c.isTerminal = none) :
    ∃ before, events = before ++ [reserved] ∧ Quiet run before ∧ Reserves run before reserved := by
  have hmem := List.mem_of_find?_eq_some hreservation
  have his := List.find?_some hreservation
  simp only [SettleCall.isReservation, Bool.and_eq_true, decide_eq_true_eq] at his
  have hnone : ∀ z ∈ events, z.attemptKey = reserved.attemptKey → z.state = .reserved := by
    intro z hz hkey
    have hterminal := List.find?_eq_none.1 hfirst z hz
    simp only [SettleCall.isTerminal, hkey, his.1.1, decide_true, Bool.true_and,
      decide_eq_true_eq, ne_eq, not_not] at hterminal
    exact hterminal
  have hcharged : ∀ before, Quiet run before → (∀ z ∈ before, z ∈ events) → reserved ∉ before := by
    intro before hquiet hsub hmem
    obtain ⟨-, z, hz, hkey, hknown⟩ := hquiet.charges reserved hmem
    have hstate := hnone z (hsub z hz) hkey
    rw [hknown] at hstate
    cases hstate
  cases h with
  | quiet h => exact absurd hmem (hcharged events h fun z hz => hz)
  | @outstanding before r h hr =>
    rcases List.mem_append.1 hmem with hmem | hmem
    · exact absurd hmem (hcharged before h fun z hz => List.mem_append_left _ hz)
    · obtain rfl := List.mem_singleton.1 hmem
      exact ⟨before, rfl, h, hr⟩
  | @uncertain before r t h hr ht huncertain =>
    rcases List.mem_append.1 hmem with hmem | hmem
    · exact absurd hmem (hcharged before h fun z hz => List.mem_append_left _ hz)
    · rcases List.mem_cons.1 hmem with rfl | hmem
      · have hstate := hnone t (by simp) ht.attempt
        rw [huncertain] at hstate
        cases hstate
      · rw [List.mem_singleton.1 hmem, huncertain] at his
        exact absurd his.2 (by decide)

theorem ofColumn_of_hasBillionths {n : Numeric} {m : Int} (hn : hasBillionths n = true)
    (hm : toColumn n = some m) : ofColumn m = n.value := by
  refine ofColumn_toColumn (k := roundAway (n.unscaled * 10 ^ 9) (10 ^ n.scale)) ?_ hm
  rw [of_decide_eq_true hn]
  ring

theorem Closed.outcome {amount : Option Int}
    (h : Closed run c events reserved amount) (hreserved : reserved.amount = some reserved.billionths) :
    (c.settlement reserved).state = .known ∧ 0 ≤ amount.getD 0 ∧ amount.getD 0 ≤ reserved.billionths ∨
      (c.settlement reserved).state = .uncertain ∧ amount = none := by
  have hcolumn := h.column
  obtain ⟨-, -, -, -, hknown, hother⟩ := h.valid
  have hnone : ∀ s : Settlement, s.amount = none →
      (s.amount.map fun n => toColumn n) = amount.map some → amount = none := by
    intro s hs hmap
    rw [hs] at hmap
    simpa using hmap.symm
  unfold SettleCall.settlement at hcolumn ⊢
  by_cases hstate : c.state = some "known"
  · rw [if_pos hstate] at hcolumn ⊢
    split at hcolumn
    · next hexceeds =>
      rw [if_pos hexceeds]
      exact .inr ⟨rfl, hnone _ rfl hcolumn⟩
    · next hwithin =>
      rw [if_neg hwithin]
      obtain ⟨n, hn, hvalid⟩ := (Option.any_eq_true _ _).1 (hknown hstate).1
      rw [Bool.and_eq_true, decide_eq_true_eq] at hvalid
      simp only [hn, Option.map_some] at hcolumn
      obtain ⟨m, rfl, hm⟩ := Option.map_eq_some_iff.1 hcolumn.symm
      have hvalue := ofColumn_of_hasBillionths hvalid.2 hm.symm
      rw [hn, hreserved, Option.any_some, Option.any_some, decide_eq_true_eq, not_lt, ← hvalue,
        ofColumn_le] at hwithin
      refine .inl ⟨rfl, ?_, hwithin⟩
      have hzero : ofColumn 0 ≤ ofColumn m := by
        rw [hvalue]
        simpa [ofColumn] using hvalid.1
      exact ofColumn_le.1 hzero
  · rw [if_neg hstate] at hcolumn ⊢
    exact .inr ⟨rfl, hnone _ (hother hstate).1 hcolumn⟩

theorem settlement_terminal :
    (c.settlement reserved).state ≠ .reserved := by
  unfold SettleCall.settlement
  split
  · split
    · exact fun h => by cases h
    · exact fun h => by cases h
  · exact fun h => by cases h

theorem Ledger.closed {amount : Option Int}
    (h : Ledger run events) (hclosed : Closed run c events reserved amount) :
    Ledger run (events ++ [settledEvent run c reserved events amount]) := by
  have hseen : seen run c.settings events = events := h.numbered.seen_eq hclosed.inserts rfl
  have hreservation := hclosed.reservation
  have hfirst := hclosed.first
  rw [hseen] at hreservation hfirst
  have his := List.find?_some hreservation
  simp only [SettleCall.isReservation, Bool.and_eq_true, decide_eq_true_eq] at his
  have hnext := h.numbered.nextSequence
  obtain ⟨before, rfl, hquiet, hr⟩ := h.outstanding_of hreservation hfirst
  have ht : Settles reserved (settledEvent run c reserved (before ++ [reserved]) amount) := by
    refine ⟨?_, hclosed.valid.1.1.symm, his.1.1.symm, rfl, hclosed.outcome hr.amount⟩
    change nextSequence (seen run c.settings (before ++ [reserved])) = _
    rw [hseen, hnext, hr.sequence, List.length_append, List.length_singleton]
  rw [List.append_assoc]
  rcases hclosed.outcome hr.amount with houtcome | houtcome
  · exact .quiet (.charged hquiet hr ht houtcome.1)
  · exact .uncertain hquiet hr ht houtcome.1

end Steps

/-! ## The law -/

def isOutstanding (events : List EventRow) (e : EventRow) : Bool :=
  e.state = .reserved && !events.any fun z => z.attemptKey = e.attemptKey && z.state ≠ .reserved

def outstandingTotal (events : List EventRow) : Int :=
  ((events.filter (isOutstanding events)).map (·.billionths)).sum

def attemptEvents (key : String) (events : List EventRow) : List EventRow :=
  events.filter fun e => e.attemptKey = key

/-- One reservation, and not more than one terminal event after it. -/
inductive AttemptLaw : List EventRow → Prop where
  | none : AttemptLaw []
  | reserved {r : EventRow} (hr : r.state = .reserved) : AttemptLaw [r]
  | settled {r t : EventRow} (hr : r.state = .reserved) (ht : t.state ≠ .reserved) : AttemptLaw [r, t]

structure LedgerLaw (sha256 : String → String) (events : List EventRow) : Prop where
  sequences : events.map (·.sequence) = List.range' 1 events.length
  outstanding : (events.filter (isOutstanding events)).length ≤ 1
  attempts : ∀ key, AttemptLaw (attemptEvents key events)
  budget : ∀ p ∈ frozenPolicy events,
    ofColumn (knownTotal events + outstandingTotal events) ≤ (limitAt p).value / 100
  uncertain : events.Pairwise fun e e' => e.state = .uncertain → e'.state ≠ .reserved
  charges : ∀ r ∈ events, r.state = .reserved → ∀ policy : RunCostPolicy,
    Jsonb.equal (·.value = ·.value) (policyJson policy) r.policy = true →
    ∀ usage : Usage, usage.Within r.inputTokenUpperBound r.outputTokenLimit → ∀ now charge,
      priceActualUsage sha256 policy.priceCard usage now = some charge →
        charge.amount ≤ ofColumn r.billionths

section Law

variable {events : List EventRow} {r t : EventRow}

theorem Quiet.filter_outstanding (h : Quiet run events) (later : List EventRow) :
    (events ++ later).filter (isOutstanding (events ++ later)) =
      later.filter (isOutstanding (events ++ later)) := by
  rw [List.filter_append, List.filter_eq_nil_iff.2 fun e he houtstanding => ?_, List.nil_append]
  obtain ⟨-, z, hz, hkey, hknown⟩ := h.charges e he
  simp only [isOutstanding, Bool.and_eq_true, Bool.not_eq_true', List.any_eq_false] at houtstanding
  exact houtstanding.2 z (List.mem_append_left _ hz) (by simp [hkey, hknown])

theorem isOutstanding_of_fresh (hr : Reserves run events r) : isOutstanding (events ++ [r]) r = true := by
  simp only [isOutstanding, hr.state, decide_true, Bool.true_and, Bool.not_eq_true', List.any_eq_false,
    Bool.and_eq_true, decide_eq_true_eq]
  rintro z hz ⟨hkey, hstate⟩
  rcases List.mem_append.1 hz with hz | hz
  · exact hr.fresh z hz hkey
  · rw [List.mem_singleton.1 hz] at hstate
    exact hstate hr.state

theorem Quiet.outstanding_reserved (h : Quiet run events) (hr : Reserves run events r) :
    (events ++ [r]).filter (isOutstanding (events ++ [r])) = [r] := by
  rw [h.filter_outstanding, List.filter_singleton, isOutstanding_of_fresh hr, cond_true]

theorem Quiet.outstanding_settled (h : Quiet run events) (hr : Reserves run events r)
    (ht : Settles r t) : (events ++ [r, t]).filter (isOutstanding (events ++ [r, t])) = [] := by
  rw [h.filter_outstanding]
  refine List.filter_eq_nil_iff.2 fun e he houtstanding => ?_
  simp only [isOutstanding, Bool.and_eq_true, decide_eq_true_eq, Bool.not_eq_true',
    List.any_eq_false] at houtstanding
  rcases List.mem_cons.1 he with rfl | he
  · exact houtstanding.2 t (by simp) (by simp [ht.attempt, ht.terminal])
  · exact ht.terminal (List.mem_singleton.1 he ▸ houtstanding.1)

theorem Quiet.outstanding (h : Quiet run events) : events.filter (isOutstanding events) = [] := by
  cases h with
  | empty => rfl
  | charged h hr ht _ => exact h.outstanding_settled hr ht

theorem attemptEvents_fresh {key : String} (h : ∀ e ∈ events, e.attemptKey ≠ key) :
    attemptEvents key events = [] :=
  List.filter_eq_nil_iff.2 fun e he => by simpa using h e he

theorem attempts_settled {key : String} (h : AttemptLaw (attemptEvents key events))
    (hr : Reserves run events r) (ht : Settles r t) : AttemptLaw (attemptEvents key (events ++ [r, t])) := by
  unfold attemptEvents
  rw [List.filter_append]
  by_cases hkey : r.attemptKey = key
  · have hnone := attemptEvents_fresh fun e he => hkey ▸ hr.fresh e he
    unfold attemptEvents at hnone
    simp only [hnone, List.nil_append, List.filter_cons, ht.attempt, hkey, decide_true, if_true,
      List.filter_nil]
    exact .settled hr.state ht.terminal
  · simp only [List.filter_cons, ht.attempt, hkey, decide_false, Bool.false_eq_true, if_false,
      List.filter_nil, List.append_nil]
    exact h

theorem attempts_reserved {key : String} (h : AttemptLaw (attemptEvents key events))
    (hr : Reserves run events r) : AttemptLaw (attemptEvents key (events ++ [r])) := by
  unfold attemptEvents
  rw [List.filter_append]
  by_cases hkey : r.attemptKey = key
  · have hnone := attemptEvents_fresh fun e he => hkey ▸ hr.fresh e he
    unfold attemptEvents at hnone
    simp only [hnone, List.nil_append, List.filter_cons, hkey, decide_true, if_true, List.filter_nil]
    exact .reserved hr.state
  · simp only [List.filter_cons, hkey, decide_false, Bool.false_eq_true, if_false, List.filter_nil,
      List.append_nil]
    exact h

theorem Quiet.attempts (h : Quiet run events) (key : String) : AttemptLaw (attemptEvents key events) := by
  induction h with
  | empty => exact .none
  | charged h hr ht hknown ih => exact attempts_settled ih hr ht

theorem Ledger.attempts (h : Ledger run events) (key : String) :
    AttemptLaw (attemptEvents key events) := by
  cases h with
  | quiet h => exact h.attempts key
  | outstanding h hr => exact attempts_reserved (h.attempts key) hr
  | uncertain h hr ht _ => exact attempts_settled (h.attempts key) hr ht

theorem Ledger.reserves (h : Ledger run events) :
    ∀ r ∈ events, r.state = .reserved → ∃ before, Reserves run before r := by
  have hsettled : ∀ {before : List EventRow} {r t : EventRow}, Reserves run before r → Settles r t →
      ∀ e ∈ [r, t], e.state = .reserved → ∃ before, Reserves run before e := by
    intro before r t hr ht e he hstate
    rcases List.mem_cons.1 he with rfl | he
    · exact ⟨before, hr⟩
    · exact absurd hstate (List.mem_singleton.1 he ▸ ht.terminal)
  have hquiet : ∀ {events}, Quiet run events →
      ∀ r ∈ events, r.state = .reserved → ∃ before, Reserves run before r := by
    intro events h
    induction h with
    | empty => exact fun r hr => by cases hr
    | charged h hr ht hknown ih =>
      intro e he hstate
      rcases List.mem_append.1 he with he | he
      · exact ih e he hstate
      · exact hsettled hr ht e he hstate
  intro e he hstate
  cases h with
  | quiet h => exact hquiet h e he hstate
  | @outstanding before r h hr =>
    rcases List.mem_append.1 he with he | he
    · exact hquiet h e he hstate
    · exact ⟨before, List.mem_singleton.1 he ▸ hr⟩
  | uncertain h hr ht _ =>
    rcases List.mem_append.1 he with he | he
    · exact hquiet h e he hstate
    · exact hsettled hr ht e he hstate

theorem Ledger.uncertain_last (h : Ledger run events) :
    events.Pairwise fun e e' => e.state = .uncertain → e'.state ≠ .reserved := by
  have hcertain : ∀ {before : List EventRow} {later : List EventRow}, Quiet run before →
      (later.Pairwise fun e e' => e.state = .uncertain → e'.state ≠ .reserved) →
      (before ++ later).Pairwise fun e e' => e.state = .uncertain → e'.state ≠ .reserved := by
    intro before later h hlater
    refine List.pairwise_append.2 ⟨?_, hlater, ?_⟩
    · exact List.Pairwise.imp_of_mem (fun he _ _ huncertain => absurd huncertain (h.charges _ he).1)
        (List.pairwise_of_forall fun _ _ => trivial)
    · exact fun e he e' _ huncertain => absurd huncertain (h.charges e he).1
  cases h with
  | quiet h => simpa using hcertain h List.Pairwise.nil
  | outstanding h hr => exact hcertain h (List.pairwise_singleton _ _)
  | uncertain h hr ht huncertain =>
    refine hcertain h (List.pairwise_pair.2 fun hreserved => ?_)
    rw [hr.state] at hreserved
    cases hreserved

theorem knownTotal_reserves (hr : Reserves run events r) : knownTotal (events ++ [r]) = knownTotal events := by
  simp [knownTotal, hr.state]

theorem knownTotal_settles (hr : Reserves run events r) (ht : Settles r t) :
    knownTotal (events ++ [r, t]) ≤ knownTotal events + r.billionths := by
  have hnonneg := hr.nonneg
  rcases ht.outcome with ⟨hknown, -, hle⟩ | ⟨huncertain, -⟩
  · have htotal : knownTotal (events ++ [r, t]) = knownTotal events + t.billionths := by
      simp [knownTotal, hr.state, hknown, EventRow.billionths]
    omega
  · have htotal : knownTotal (events ++ [r, t]) = knownTotal events := by
      simp [knownTotal, hr.state, huncertain]
    omega

theorem Reserves.frozen {later : List EventRow} (hr : Reserves run events r)
    (hnumbered : Numbered (events ++ r :: later)) (hp : p ∈ frozenPolicy (events ++ r :: later)) :
    limitAt p = limitAt r.policy := by
  rw [hnumbered.frozenPolicy] at hp
  obtain ⟨first, hfirst, rfl⟩ := Option.map_eq_some_iff.1 hp
  cases events with
  | nil => rw [← Option.some.inj hfirst]
  | cons e rest => exact hr.limit first (by rw [← Option.some.inj hfirst]; exact List.mem_cons_self)

theorem Settles.budget (h : Quiet run events) (hr : Reserves run events r)
    (ht : Settles r t) (hp : p ∈ frozenPolicy (events ++ [r, t])) :
    ofColumn (knownTotal (events ++ [r, t]) + outstandingTotal (events ++ [r, t])) ≤
      (limitAt p).value / 100 := by
  have htotal : outstandingTotal (events ++ [r, t]) = 0 := by
    rw [outstandingTotal, h.outstanding_settled hr ht]
    rfl
  rw [htotal, Int.add_zero, hr.frozen (h.numbered.settles hr ht) hp]
  exact (ofColumn_le.2 (knownTotal_settles hr ht)).trans hr.budget

theorem Ledger.budget (h : Ledger run events) (hp : p ∈ frozenPolicy events) :
    ofColumn (knownTotal events + outstandingTotal events) ≤ (limitAt p).value / 100 := by
  cases h with
  | quiet h =>
    cases h with
    | empty => cases hp
    | charged h hr ht _ => exact ht.budget h hr hp
  | @outstanding before r h hr =>
    have htotal : outstandingTotal (before ++ [r]) = r.billionths := by
      rw [outstandingTotal, h.outstanding_reserved hr]
      simp
    rw [htotal, knownTotal_reserves hr, hr.frozen (h.numbered.reserves hr) hp]
    exact hr.budget
  | uncertain h hr ht _ => exact ht.budget h hr hp

theorem Ledger.outstanding_le (h : Ledger run events) :
    (events.filter (isOutstanding events)).length ≤ 1 := by
  cases h with
  | quiet h => simp [h.outstanding]
  | outstanding h hr => simp [h.outstanding_reserved hr]
  | uncertain h hr ht _ => simp [h.outstanding_settled hr ht]

/-- The maximum of a reservation keeps its ceiling. -/
def EventRow.CeilingKept (r : EventRow) : Prop :=
  RunCost.CeilingKept (tokenAmount r.inputTokenUpperBound r.outputTokenLimit (cardOf r.policy))

theorem Reserves.charge_le {sha256 : String → String} {policy : RunCostPolicy} {usage : Usage} {now : Int}
    {charge : PriceCardCharge} (hr : Reserves run events r) (hkept : r.CeilingKept)
    (hequal : Jsonb.equal (·.value = ·.value) (policyJson policy) r.policy = true)
    (hwithin : usage.Within r.inputTokenUpperBound r.outputTokenLimit)
    (hcharge : priceActualUsage sha256 policy.priceCard usage now = some charge) :
    charge.amount ≤ ofColumn r.billionths := by
  rw [hr.maximum, maximumAmount_eq]
  exact (charge_le_ceiling hequal hr.policy.2.1 hwithin hcharge).trans hkept

theorem Ledger.law {sha256 : String → String} (h : Ledger run events)
    (hkept : ∀ r ∈ events, r.state = .reserved → r.CeilingKept) : LedgerLaw sha256 events where
  sequences := h.numbered.sequences
  outstanding := h.outstanding_le
  attempts := h.attempts
  budget := fun p hp => h.budget hp
  uncertain := h.uncertain_last
  charges := by
    intro r hr hstate policy hequal usage hwithin now charge hcharge
    obtain ⟨before, hreserves⟩ := h.reserves r hr hstate
    exact hreserves.charge_le (hkept r hr hstate) hequal hwithin hcharge

end Law

/-! ## Runs -/

section Runs

/-- A call that is confirmed and whose maximum keeps its ceiling, if it is a reservation. -/
def CostCall.CeilingKept (run : RunKey) (timestamptz : String → Option Int) : CostCall → Prop
  | .reserve c => ∀ p ib ob, c.policy = some p → c.inputBound = some ib → c.outputLimit = some ob →
    policyConfirmed run timestamptz c = some true → RunCost.CeilingKept (tokenAmount ib ob (cardOf p))
  | _ => True

/-- What every state keeps that is reached by calls whose maximum keeps its ceiling. -/
structure Kept (run : RunKey) (timestamptz : String → Option Int)
    (x : Cluster P CostCall CostRows CostLock CostError CostAnswer) : Prop where
  calls : ∀ p session, x.sessions p = some session → session.call.CeilingKept run timestamptz
  ledger : Ledger run x.committed.events
  ceilings : ∀ r ∈ x.committed.events, r.state = .reserved → r.CeilingKept

theorem Kept.next {x : Cluster P CostCall CostRows CostLock CostError CostAnswer}
    (hx : (costDatabase run timestamptz others : Machine (Cluster P _ _ _ _ _) _ _).Reachable x)
    (h : Kept run timestamptz x) {move : Move P CostCall CostError}
    (hmove : ∀ p call, move = .start p call → call.CeilingKept run timestamptz) :
    Kept run timestamptz ((costDatabase run timestamptz others).next x move) := by
  have hcalls := calls_next (CostCall.program run timestamptz) ⟨[], others⟩ h.calls hmove
  have hmade : Made (·.events) (Turn run timestamptz) x
      ((costDatabase run timestamptz others).next x move)
      ((costDatabase run timestamptz others).answer x move) := made_next program_meets hx move
  rcases hmade.cases with hsame | ⟨call, a, hanswer, hturn⟩
  · refine ⟨hcalls, ?_, ?_⟩
    · rw [hsame]
      exact h.ledger
    · rw [hsame]
      exact h.ceilings
  · obtain ⟨p, session, hsession, hcall⟩ := session_of_answer _ _ hanswer
    have hkept := h.calls p session hsession
    rw [hcall] at hkept
    generalize hnext : ((costDatabase run timestamptz others).next x move).committed.events = events
      at hturn
    refine ⟨hcalls, ?_, ?_⟩
    · rw [hnext]
      cases hturn with
      | refused c events row hrow => exact h.ledger
      | repeated c events sequence => exact h.ledger
      | granted c events i p ib ob amount row hgranted =>
        obtain ⟨hquiet, hreserves⟩ := h.ledger.granted hgranted
        exact .outstanding hquiet hreserves
      | closed c events reserved amount sequence hclosed => exact h.ledger.closed hclosed
    · rw [hnext]
      cases hturn with
      | refused c events row hrow => exact h.ceilings
      | repeated c events sequence => exact h.ceilings
      | granted c events i p ib ob amount row hgranted =>
        intro r hr hstate
        rcases List.mem_append.1 hr with hr | hr
        · exact h.ceilings r hr hstate
        · rw [List.mem_singleton.1 hr]
          obtain ⟨⟨hp, hib, hob⟩, hconfirmed, -⟩ := hgranted
          exact hkept p ib ob hp hib hob hconfirmed
      | closed c events reserved amount sequence hclosed =>
        intro r hr hstate
        rcases List.mem_append.1 hr with hr | hr
        · exact h.ceilings r hr hstate
        · rw [List.mem_singleton.1 hr] at hstate
          exact absurd hstate settlement_terminal

section Sample

def midnight (day : Nat) (h : 1 ≤ day ∧ day ≤ 31) : Datetime where
  year := 2026
  month := 10
  day := day
  hour := 0
  minute := 0
  second := 0
  microsecond := 0
  date := ⟨by decide, by decide, by decide, by decide, h.1, h.2⟩
  time := by decide

def sampleFrom : Datetime := midnight 20 (by decide)

def sampleUntil : Datetime := midnight 21 (by decide)

/-- `::timestamptz` on the two texts of the samples. -/
def sampleTimestamptz (s : String) : Option Int :=
  if s = sampleFrom.isoformat then some sampleFrom.instant
  else if s = sampleUntil.isoformat then some sampleUntil.instant
  else none

def sampleCard : PriceCard where
  version := "upstage-20261020"
  baseUrl := usdEndpoint
  modelId := "solar-pro4"
  currency := "USD"
  inputPerMillion := ⟨false, 30, -2⟩
  cachedInputPerMillion := ⟨false, 6, -2⟩
  outputPerMillion := ⟨false, 120, -2⟩
  validFrom := sampleFrom
  validUntil := sampleUntil
  ids := by decide +kernel
  prices := by decide +kernel
  cached := by decide +kernel
  window := by decide +kernel

/-- 1000000 for a million tokens of input, and a billionth for a million tokens of output. -/
def dearCard : PriceCard where
  version := "upstage-20261020"
  baseUrl := usdEndpoint
  modelId := "solar-pro4"
  currency := "USD"
  inputPerMillion := ⟨false, 1000000, 0⟩
  cachedInputPerMillion := ⟨false, 0, 0⟩
  outputPerMillion := ⟨false, 1, -9⟩
  validFrom := sampleFrom
  validUntil := sampleUntil
  ids := by decide +kernel
  prices := by decide +kernel
  cached := by decide +kernel
  window := by decide +kernel

def samplePolicy (card : PriceCard) : RunCostPolicy where
  policyId := "qa-upstage-usd-run"
  version := 1
  tenantId := "tenant-qa"
  workspaceId := "workspace-qa"
  actorId := "usr-qa"
  connectionId := "provider-upstage"
  modelId := "solar-pro4"
  runKind := .question
  currency := "USD"
  limitMinorUnits := 1000000000000
  priceCard := card
  ids := by decide
  numbers := by decide
  currencyCode := by decide

def sampleRun : RunKey := ⟨"tenant-qa", "workspace-qa", .question, "run-qa"⟩

def sampleSettings : CostSettings := ⟨⟨"tenant-qa", "workspace-qa", "usr-qa"⟩, "run.cost"⟩

def sampleOthers : Surroundings where
  records := {
    requests := []
    previews := []
    backups := []
    manifests := []
    users := [⟨"usr-qa", "active"⟩]
    workspaces := [⟨"tenant-qa", "workspace-qa", "personal"⟩]
    tenantRoles := []
    memberships := [⟨"tenant-qa", "workspace-qa", "usr-qa", "workspace_admin", "active"⟩]
    tenantMemberships := [] }
  runs := [⟨"tenant-qa", "workspace-qa", "run-qa", "usr-qa"⟩]
  processingRuns := []

def sampleReserve (card : PriceCard) : ReserveCall where
  settings := sampleSettings
  actorId := "usr-qa"
  attemptKey := "attempt-first"
  policy := policyJson (samplePolicy card)
  inputBound := some 100000
  outputLimit := some 1
  stamp := sampleFrom.instant
  guardedAt := sampleFrom.instant

def sampleSettle : SettleCall where
  settings := sampleSettings
  actorId := "usr-qa"
  attemptKey := "attempt-first"
  sequence := 1
  state := some "known"
  amount := some ⟨300012, 7⟩
  currency := some "USD"
  priceVersion := some "upstage-20261020"
  usageDigest := String.ofList (List.replicate 64 '0')
  receiptId := String.ofList ("cost-".toList ++ List.replicate 64 '0')
  observedAt := some sampleFrom.instant
  now := sampleFrom.instant
  guardedAt := sampleFrom.instant

def callMoves (call : CostCall) : List (Move Unit CostCall CostError) :=
  .start () call :: List.replicate 14 (.step ())

def sampleUsage : Usage := ⟨some 100000, some 1, some 0⟩

def sampleSha256 (_ : String) : String := String.ofList (List.replicate 64 '0')

end Sample

end Runs

end DaonUser.RunCost
