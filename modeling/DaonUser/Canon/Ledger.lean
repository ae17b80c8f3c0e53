import DaonUser.Canon.Model
import DaonUser.Lib.ReadCommitted

/-!
# The ledger of the canonical records

Whatever calls run beside each other: the transitions of a record are a path by the rules from the initial
state of its table to its state (`Lawful`), and an id has the one attempt of the call that used it first,
which the later calls with this id replay (`Used`). The lock of its row guards a record, and an advisory
lock what an id has left.
-/

namespace DaonUser.Canon

open Lib

variable {P : Type}

/-! ## Paths -/

/-- The transitions lead by the rules of the table from one state to another. -/
inductive Path (table : CanonTable) : String → List CanonTransition → String → Prop where
  | nil (state : String) : Path table state [] state
  | snoc {state : String} {transitions : List CanonTransition} {t : CanonTransition}
      (h : Path table state transitions t.sourceState)
      (hrule : (t.sourceState, t.targetState) ∈ table.transitionRules) :
      Path table state (transitions ++ [t]) t.targetState

/-- A record and its transitions: there is neither, or the transitions, in the order of their versions,
lead from the initial state to the state of the record, and the version of the record counts them. -/
def Lawful (table : CanonTable) (records : List CanonRecord) (transitions : List CanonTransition) :
    Prop :=
  records = [] ∧ transitions = [] ∨
    ∃ r, records = [r] ∧ r.version = transitions.length + 1 ∧
      transitions.map (·.transitionVersion) = List.range' 2 transitions.length ∧
      Path table table.initialState transitions r.state

def recordOf (table : CanonTable) (recordId : String) (rows : Rows) : List CanonRecord :=
  rows.records.filter (CanonRecord.is table recordId)

def transitionsOf (table : CanonTable) (recordId : String) (rows : Rows) : List CanonTransition :=
  rows.transitions.filter fun t => t.entityType = table.entityType && t.recordId = recordId

def observed (table : CanonTable) (recordId : String) (rows : Rows) :
    List CanonRecord × List CanonTransition :=
  (recordOf table recordId rows, transitionsOf table recordId rows)

/-- What a call does with a record: nothing, the insertion of a new one, or a transition. -/
inductive Turn (table : CanonTable) (recordId : String) :
    List CanonRecord × List CanonTransition → List CanonRecord × List CanonTransition → Prop where
  | same (b : List CanonRecord × List CanonTransition) : Turn table recordId b b
  | inserted (r : CanonRecord) (transitions : List CanonTransition) (hversion : r.version = 1)
      (hstate : r.state = table.initialState) :
      Turn table recordId ([], transitions) ([r], transitions)
  | transitioned (r : CanonRecord) (rest : List CanonRecord) (transitions : List CanonTransition)
      (a : TransitionArgs) (hrule : (r.state, a.targetState) ∈ table.transitionRules) :
      Turn table recordId (r :: rest, transitions)
        ((r :: rest).map fun x => { x with state := a.targetState, version := x.version + 1 },
          transitions ++ [a.transition r])

theorem Turn.lawful {table : CanonTable} {recordId : String}
    {b b' : List CanonRecord × List CanonTransition} (h : Turn table recordId b b')
    (hb : Lawful table b.1 b.2) : Lawful table b'.1 b'.2 := by
  cases h with
  | same => exact hb
  | inserted r transitions hversion hstate =>
    rcases hb with ⟨-, htransitions⟩ | ⟨r', hr', -⟩
    · obtain rfl : transitions = [] := htransitions
      refine Or.inr ⟨r, rfl, hversion, rfl, ?_⟩
      rw [hstate]
      exact .nil _
    · cases hr'
  | transitioned r rest transitions a hrule =>
    rcases hb with ⟨hr', -⟩ | ⟨r', hr', hversion, hversions, hpath⟩
    · cases hr'
    · obtain ⟨rfl, rfl⟩ : r = r' ∧ rest = [] := by simpa using hr'
      dsimp only at hversion hversions hpath
      have hnext : (a.transition r).transitionVersion = 2 + 1 * transitions.length := by
        change r.version + 1 = _
        omega
      refine Or.inr ⟨_, rfl, ?_, ?_, ?_⟩
      · simp [hversion]
      · simp [hversions, hnext, List.range'_concat]
      · exact .snoc hpath hrule

/-! ## What the statements do to a record -/

section Records

variable {table table' : CanonTable} {recordId recordId' : String} {a : TransitionArgs} {rows : Rows}

theorem ofEntityType_eq_some {entityType : String}
    (h : CanonTable.ofEntityType entityType = some table) : entityType = table.entityType := by
  unfold CanonTable.ofEntityType at h
  grind [CanonTable.entityType]

theorem entityType_injective (h : table.entityType = table'.entityType) : table = table' := by
  cases table <;> cases table' <;> first | rfl | exact absurd h (by decide)

theorem CanonRecord.is_iff {r : CanonRecord} :
    r.is table recordId = true ↔ r.table = table ∧ r.recordId = recordId := by
  simp [CanonRecord.is]

theorem CanonRecord.not_is_of_ne {r : CanonRecord} (hne : ¬(table = table' ∧ recordId = recordId'))
    (h : r.is table' recordId' = true) : r.is table recordId = false := by
  rw [Bool.eq_false_iff]
  intro h'
  rw [is_iff] at h h'
  exact hne ⟨h'.1.symm.trans h.1, h'.2.symm.trans h.2⟩

theorem mem_recordLocks {v : Rows} {l : Lock} :
    l ∈ (v.records.filter (CanonRecord.is table' recordId')).map (fun _ => Lock.record table' recordId') ↔
      recordOf table' recordId' v ≠ [] ∧ l = .record table' recordId' := by
  rw [← recordOf, List.mem_map]
  constructor
  · rintro ⟨x, hx, rfl⟩
    exact ⟨List.ne_nil_of_mem hx, rfl⟩
  · rintro ⟨hne, rfl⟩
    obtain ⟨x, hx⟩ := List.exists_mem_of_ne_nil _ hne
    exact ⟨x, hx, rfl⟩

theorem find?_record : rows.records.find? (CanonRecord.is table recordId) =
    (recordOf table recordId rows).head? := List.head?_filter.symm

theorem recordOf_update_of_ne (hne : ¬(table = table' ∧ recordId = recordId')) {state : String} :
    recordOf table recordId { rows with
      records := rows.records.map fun x =>
        if x.is table' recordId' then { x with state, version := x.version + 1 } else x } =
      recordOf table recordId rows := by
  unfold recordOf
  induction rows.records with
  | nil => rfl
  | cons x xs ih =>
    rw [List.map_cons, List.filter_cons, List.filter_cons, ih]
    by_cases hx : x.is table' recordId' = true
    · have hother := CanonRecord.not_is_of_ne hne hx
      rw [if_pos hx, hother, show CanonRecord.is table recordId
        { x with state, version := x.version + 1 } = false from hother]
      rfl
    · rw [if_neg hx]

theorem recordOf_update {state : String} :
    recordOf table recordId { rows with
      records := rows.records.map fun x =>
        if x.is table recordId then { x with state, version := x.version + 1 } else x } =
      (recordOf table recordId rows).map fun x => { x with state, version := x.version + 1 } := by
  unfold recordOf
  induction rows.records with
  | nil => rfl
  | cons x xs ih =>
    rw [List.map_cons, List.filter_cons, List.filter_cons, ih]
    by_cases hx : x.is table recordId = true
    · rw [if_pos hx, if_pos hx, show CanonRecord.is table recordId
        { x with state, version := x.version + 1 } = true from hx, if_pos rfl, List.map_cons]
    · rw [if_neg hx, if_neg hx, if_neg hx]

theorem transitionsOf_append {t : CanonTransition} :
    transitionsOf table recordId { rows with transitions := rows.transitions ++ [t] } =
      transitionsOf table recordId rows ++
        if t.entityType = table.entityType ∧ t.recordId = recordId then [t] else [] := by
  simp [transitionsOf, List.filter_append, List.filter_singleton, Bool.and_eq_true]

theorem ignores_recordAttempt {found : Option CanonRecord} {row : TransitionRow} :
    (recordAttempt a found row).Ignores (.record table recordId) (observed table recordId) := by
  refine Program.Ignores.bind (Program.ignores_insert (by simp) fun _ => rfl) fun _ => ?_
  refine Program.Ignores.bind (Program.ignores_insert (by simp) fun _ => rfl) fun _ => ?_
  exact Program.ignores_pure

theorem ignores_attemptTransition
    (hne : ∀ table', CanonTable.ofEntityType a.entityType = some table' →
      ¬(table = table' ∧ recordId = a.recordId)) :
    (attemptTransition a).Ignores (.record table recordId) (observed table recordId) := by
  have hfind : (findRecord a).Ignores (.record table recordId) (observed table recordId) := by
    unfold findRecord
    split
    · exact Program.ignores_pure
    · next table' htable =>
      refine Program.ignores_readLocked fun v hmem => ?_
      obtain ⟨-, heq⟩ := mem_recordLocks.1 hmem
      injection heq with htable' hid
      exact hne table' htable ⟨htable', hid⟩
  refine hfind.bind fun found => ?_
  cases hverdict : verdict a found with
  | error code => exact ignores_recordAttempt
  | ok target =>
    obtain ⟨table', r⟩ := target
    have htable : CanonTable.ofEntityType a.entityType = some table' := by
      unfold verdict at hverdict
      grind
    have hne := hne table' htable
    refine Program.Ignores.bind (Program.ignores_insert ?_ fun s => ?_) fun _ => ?_
    · intro v hmem
      rw [List.mem_singleton] at hmem
      injection hmem with htable' hid
      exact hne ⟨htable', hid⟩
    · exact Prod.ext (recordOf_update_of_ne hne) rfl
    refine Program.Ignores.bind (Program.ignores_insert (by simp) fun s => ?_) fun _ => ?_
    · refine Prod.ext rfl ?_
      have hother : ¬((a.transition r).entityType = table.entityType ∧
          (a.transition r).recordId = recordId) := by
        rintro ⟨htype, hid⟩
        have htype : table'.entityType = table.entityType :=
          (ofEntityType_eq_some htable).symm.trans htype
        exact hne ⟨(entityType_injective htype).symm, hid.symm⟩
      change transitionsOf _ _ _ = transitionsOf _ _ _
      rw [transitionsOf_append, if_neg hother, List.append_nil]
    exact ignores_recordAttempt

variable (table recordId) in
def Turned (_call : CanonCall) (_answer : Answer) :
    Hold (List CanonRecord × List CanonTransition) → Prop
  | .free => True
  | .held b b' => Turn table recordId b b'

theorem meets_attemptTransition (htable : CanonTable.ofEntityType a.entityType = some table)
    (call : CanonCall) :
    (attemptTransition a).Meets (.record table a.recordId) (observed table a.recordId)
      (fun _ => True) (Turned table a.recordId call) .free := by
  simp only [attemptTransition, findRecord, htable, Program.meets_bind, Program.meets_readLocked_free,
    find?_record, mem_recordLocks, and_true, Decidable.not_not]
  intro v
  constructor
  · intro hnone
    have hverdict : verdict a (recordOf table a.recordId v).head? = .error .recordNotFound := by
      simp [verdict, htable, hnone]
    simp only [hverdict]
    exact ignores_recordAttempt.meets fun _ => trivial
  · intro hsome _
    obtain ⟨r, rest, hrecord⟩ := List.exists_cons_of_ne_nil hsome
    simp only [hrecord, List.head?_cons]
    cases hverdict : verdict a (some r) with
    | error code => exact ignores_recordAttempt.meets fun _ => .same _
    | ok target =>
      obtain ⟨rfl, hrule⟩ : target = (table, r) ∧ (r.state, a.targetState) ∈ table.transitionRules := by
        simp only [verdict, htable] at hverdict
        split at hverdict
        · cases hverdict
        split at hverdict
        · cases hverdict
        · next hrule => exact ⟨(Except.ok.inj hverdict).symm, Decidable.not_not.1 hrule⟩
      have hobserved : observed table a.recordId v = (r :: rest, transitionsOf table a.recordId v) := by
        rw [observed, hrecord]
      rw [hobserved]
      simp only [Program.meets_bind]
      let moved := (r :: rest).map fun x => { x with state := a.targetState, version := x.version + 1 }
      refine Program.meets_insert_held (b := (moved, transitionsOf table a.recordId v))
        (fun s hs => ?_) (Program.meets_insert_held
          (b := (moved, transitionsOf table a.recordId v ++ [a.transition r])) (fun s hs => ?_) ?_)
      · exact Prod.ext (recordOf_update.trans (congrArg _ (Prod.ext_iff.1 hs).1)) (Prod.ext_iff.1 hs).2
      · refine Prod.ext (Prod.ext_iff.1 hs).1 ?_
        change transitionsOf _ _ _ = _
        rw [transitionsOf_append, if_pos ⟨ofEntityType_eq_some htable, rfl⟩]
        exact congrArg (· ++ _) (Prod.ext_iff.1 hs).2
      · exact ignores_recordAttempt.meets fun _ => .transitioned r rest _ a hrule

theorem meets_insertRecord {r : CanonRecord} (call : CanonCall) :
    (insertRecord r).Meets (.record r.table r.recordId) (observed r.table r.recordId) (fun _ => True)
      (fun _ => Turned r.table r.recordId call .inserted) .free := by
  simp only [insertRecord, Program.meets_bind, Program.meets_ensure]
  intro _ hinitial
  refine Program.meets_insert_free (by simp) fun v hadmits => ?_
  have hnone : recordOf r.table r.recordId v = [] := List.filter_eq_nil_iff.2 hadmits
  have hobserved : observed r.table r.recordId v = ([], transitionsOf r.table r.recordId v) := by
    rw [observed, hnone]
  rw [hobserved]
  refine ⟨([r], transitionsOf r.table r.recordId v), fun s hs => ?_,
    .inserted r _ hinitial.1 hinitial.2⟩
  refine Prod.ext ?_ (Prod.ext_iff.1 hs).2
  have hs : recordOf r.table r.recordId s = [] := (Prod.ext_iff.1 hs).1
  change recordOf _ _ _ = _
  rw [recordOf, List.filter_append, ← recordOf, hs, List.filter_cons_of_pos (CanonRecord.is_iff.2 ⟨rfl, rfl⟩)]
  rfl

variable (table recordId) in
theorem program_turned (call : CanonCall) :
    (program call).Meets (.record table recordId) (observed table recordId) (fun _ => True)
      (Turned table recordId call) .free := by
  have htransition (a : TransitionArgs) :
      (transitionCanonState a).Meets (.record table recordId) (observed table recordId)
        (fun _ => True) (Turned table recordId call) .free := by
    simp only [transitionCanonState, Program.meets_bind, Program.meets_readLocked_free,
      Program.meets_read_free]
    refine fun _ => ⟨fun _ v => ?_, fun hmem => absurd hmem (by simp)⟩
    cases v.attempts.find? (·.attemptId = a.transitionId) with
    | some attempt => exact Program.meets_pure.2 trivial
    | none =>
      by_cases hsame : CanonTable.ofEntityType a.entityType = some table ∧ recordId = a.recordId
      · obtain ⟨htable, rfl⟩ := hsame
        exact meets_attemptTransition htable call
      · refine (ignores_attemptTransition fun table' htable' heq => ?_).meets fun _ => trivial
        exact hsame ⟨heq.1 ▸ htable', heq.2⟩
  cases call with
  | transition a => exact htransition a
  | storeTransition a =>
    simp only [program, storeTransition, Program.meets_bind, Program.meets_ensure]
    exact fun _ => htransition a
  | insert r =>
    simp only [program, Program.meets_bind, Program.meets_pure]
    by_cases hsame : table = r.table ∧ recordId = r.recordId
    · obtain ⟨rfl, rfl⟩ := hsame
      exact meets_insertRecord _
    · refine Program.Ignores.meets ?_ fun _ => trivial
      refine Program.ignores_ensure.bind fun _ => Program.ignores_ensure.bind fun _ => ?_
      refine Program.ignores_insert (fun _ hmem => ?_) fun s => ?_
      · rw [List.mem_singleton] at hmem
        injection hmem with htable hid
        exact hsame ⟨htable, hid⟩
      · refine Prod.ext ?_ rfl
        change recordOf _ _ _ = recordOf _ _ _
        have hother : ¬r.is table recordId = true := fun his =>
          hsame ⟨(CanonRecord.is_iff.1 his).1.symm, (CanonRecord.is_iff.1 his).2.symm⟩
        rw [recordOf, List.filter_append, List.filter_cons_of_neg hother, List.filter_nil,
          List.append_nil, recordOf]

theorem lawful_of_serial {b b' : List CanonRecord × List CanonTransition}
    {calls : List (CanonCall × Answer)} (h : Serial (Turned table recordId) b calls b')
    (hb : Lawful table b.1 b.2) : Lawful table b'.1 b'.2 := by
  induction h with
  | nil => exact hb
  | passed _ _ ih => exact ih
  | wrote _ hq ih => exact hq.lawful ih

end Records

/-! ## What an id has left -/

structure IdRows where
  attempts : List CanonAttempt
  transitions : List CanonTransition
  auditEvents : List AuditEvent

def IdRows.empty : IdRows := ⟨[], [], []⟩

def Rows.ofId (transitionId : String) (rows : Rows) : IdRows where
  attempts := rows.attempts.filter (·.attemptId = transitionId)
  transitions := rows.transitions.filter (·.transitionId = transitionId)
  auditEvents := rows.auditEvents.filter (·.eventId = transitionId)

def TransitionArgs.row (a : TransitionArgs) (found : Option CanonRecord) : TransitionRow :=
  match verdict a found with
  | .error code => deniedRow found code
  | .ok (_, r) => a.succeededRow r

/-- What a new call leaves when it found this record: its attempt, the transition if it succeeded, and
its audit event. -/
def TransitionArgs.left (a : TransitionArgs) (found : Option CanonRecord) : IdRows where
  attempts := [a.attempt found (a.row found)]
  transitions := match verdict a found with
    | .error _ => []
    | .ok (_, r) => [a.transition r]
  auditEvents := [a.audit found (a.row found)]

/-- What the returned calls with an id have left: nothing before the first one, and then what the first
one left, which the others replay. -/
inductive Used : List (TransitionArgs × Answer) → IdRows → Prop where
  | unused : Used [] .empty
  | used (a : TransitionArgs) (found : Option CanonRecord) (later : List (TransitionArgs × Answer))
      (hlater : ∀ call ∈ later,
        call.2 = .replayed ((a.attempt found (a.row found)).replay call.1)) :
      Used ((a, .recorded (a.row found)) :: later) (a.left found)

def callsOf (transitionId : String) (calls : List (CanonCall × Answer)) :
    List (TransitionArgs × Answer) :=
  (calls.filterMap fun call => call.1.args?.map fun a => (a, call.2)).filter
    (·.1.transitionId = transitionId)

section Ids

variable {transitionId : String} {a : TransitionArgs}

variable (transitionId) in
/-- What a call with this id makes of the rows with the id: it leaves its own if there is no attempt, and
replays the attempt otherwise. Another call is none with this id. -/
def Leaves (call : CanonCall) (answer : Answer) : Hold IdRows → Prop
  | .free => ∀ a, call.args? = some a → a.transitionId ≠ transitionId
  | .held before now => ∃ a, call.args? = some a ∧ a.transitionId = transitionId ∧
      ((∃ attempt, before.attempts.head? = some attempt ∧ answer = .replayed (attempt.replay a) ∧
          now = before) ∨
        before.attempts = [] ∧ ∃ found, answer = .recorded (a.row found) ∧
          now = ⟨(a.left found).attempts, before.transitions ++ (a.left found).transitions,
            before.auditEvents ++ (a.left found).auditEvents⟩)

theorem callsOf_concat {calls : List (CanonCall × Answer)} {call : CanonCall} {answer : Answer} :
    callsOf transitionId (calls ++ [(call, answer)]) = callsOf transitionId calls ++
      match call.args? with
      | none => []
      | some a => if a.transitionId = transitionId then [(a, answer)] else [] := by
  unfold callsOf
  rw [List.filterMap_append, List.filter_append]
  congr 1
  cases hargs : call.args? with
  | none => simp [hargs]
  | some a => simp [hargs, List.filter_singleton]

theorem used_of_serial {calls : List (CanonCall × Answer)} {x : IdRows}
    (h : Serial (Leaves transitionId) (Rows.empty.ofId transitionId) calls x) : Used (callsOf transitionId calls) x := by
  induction h with
  | nil => exact .unused
  | @passed b calls call answer _ hq ih =>
    rw [callsOf_concat]
    cases hargs : call.args? with
    | none => simpa using ih
    | some a => simpa [hq a hargs] using ih
  | @wrote b b' calls call answer _ hq ih =>
    obtain ⟨a, hargs, hid, hanswer⟩ := hq
    rw [callsOf_concat]
    simp only [hargs, if_pos hid]
    rcases hanswer with ⟨attempt, hattempt, rfl, rfl⟩ | ⟨hnone, found, rfl, rfl⟩
    · revert hattempt ih
      generalize callsOf transitionId calls = earlier
      rintro (_ | ⟨first, found, later, hlater⟩) hattempt
      · cases hattempt
      · obtain rfl : first.attempt found (first.row found) = attempt := Option.some.inj hattempt
        refine .used first found (later ++ [_]) fun call hcall => ?_
        rcases List.mem_append.1 hcall with hcall | hcall
        · exact hlater call hcall
        · rw [List.mem_singleton.1 hcall]
    · revert hnone ih
      generalize callsOf transitionId calls = earlier
      rintro (_ | ⟨first, found', later, hlater⟩) hnone
      · exact .used a found [] (by simp)
      · cases hnone

theorem ignores_findRecord :
    (findRecord a).Ignores (.advisory transitionId) (Rows.ofId transitionId) := by
  unfold findRecord
  split
  · exact Program.ignores_pure
  · exact Program.ignores_readLocked fun v hmem => absurd (mem_recordLocks.1 hmem).2 (by simp)

theorem ignores_updateRecord {table : CanonTable} :
    (updateRecord a table).Ignores (.advisory transitionId) (Rows.ofId transitionId) :=
  Program.ignores_insert (by simp) fun _ => rfl

theorem ignores_insertRecord {r : CanonRecord} :
    (insertRecord r).Ignores (.advisory transitionId) (Rows.ofId transitionId) :=
  Program.ignores_ensure.bind fun _ => Program.ignores_ensure.bind fun _ =>
    Program.ignores_insert (by simp) fun _ => rfl

theorem ignores_attemptTransition_of_ne (hne : a.transitionId ≠ transitionId) :
    (attemptTransition a).Ignores (.advisory transitionId) (Rows.ofId transitionId) := by
  have hrecord (found : Option CanonRecord) (row : TransitionRow) :
      (recordAttempt a found row).Ignores (.advisory transitionId) (Rows.ofId transitionId) := by
    refine Program.Ignores.bind (Program.ignores_insert (by simp) fun s => ?_) fun _ =>
      Program.Ignores.bind (Program.ignores_insert (by simp) fun s => ?_) fun _ =>
        Program.ignores_pure
    · simp [Rows.ofId, List.filter_append, TransitionArgs.attempt, hne]
    · simp [Rows.ofId, List.filter_append, TransitionArgs.audit, hne]
  refine ignores_findRecord.bind fun found => ?_
  cases verdict a found with
  | error code => exact hrecord found _
  | ok target =>
    obtain ⟨table, r⟩ := target
    refine ignores_updateRecord.bind fun _ =>
      Program.Ignores.bind (Program.ignores_insert (by simp) fun s => ?_) fun _ => hrecord _ _
    simp [Rows.ofId, List.filter_append, TransitionArgs.transition, hne]

theorem meets_recordAttempt {found : Option CanonRecord} {row : TransitionRow} {before : IdRows}
    {transitions : List CanonTransition} {auditEvents : List AuditEvent}
    {Q : Answer → Hold IdRows → Prop}
    (hq : Q (.recorded row) (.held before ⟨[a.attempt found row], transitions,
      auditEvents ++ [a.audit found row]⟩)) :
    (recordAttempt a found row).Meets (.advisory a.transitionId) (Rows.ofId a.transitionId)
      (fun _ => True) Q (.held before ⟨[], transitions, auditEvents⟩) := by
  simp only [recordAttempt, Program.meets_bind, Program.meets_pure]
  refine Program.meets_insert_held (b := ⟨[a.attempt found row], transitions, auditEvents⟩)
    (fun s hs => ?_) (Program.meets_insert_held (fun s hs => ?_) hq)
  · obtain ⟨hattempts, htransitions, hevents⟩ := IdRows.mk.inj hs
    simp [Rows.ofId, List.filter_append, hattempts, htransitions, hevents, TransitionArgs.attempt]
  · obtain ⟨hattempts, htransitions, hevents⟩ := IdRows.mk.inj hs
    simp [Rows.ofId, List.filter_append, hattempts, htransitions, hevents, TransitionArgs.audit]

theorem meets_attemptTransition_held {before : IdRows} (hnone : before.attempts = [])
    {call : CanonCall} (hargs : call.args? = some a) :
    (attemptTransition a).Meets (.advisory a.transitionId) (Rows.ofId a.transitionId)
      (fun _ => True) (Leaves a.transitionId call) (.held before before) := by
  obtain ⟨attempts, transitions, auditEvents⟩ := before
  obtain rfl : attempts = [] := hnone
  simp only [attemptTransition, Program.meets_bind]
  refine ignores_findRecord.meets fun found => ?_
  cases hverdict : verdict a found with
  | error code =>
    refine meets_recordAttempt ⟨a, hargs, rfl, Or.inr ⟨rfl, found, ?_⟩⟩
    simp [TransitionArgs.left, TransitionArgs.row, hverdict]
  | ok target =>
    obtain ⟨table, r⟩ := target
    simp only [Program.meets_bind]
    refine ignores_updateRecord.meets fun _ => ?_
    refine Program.meets_insert_held (b := ⟨[], transitions ++ [a.transition r], auditEvents⟩)
      (fun s hs => ?_) (meets_recordAttempt ⟨a, hargs, rfl, Or.inr ⟨rfl, found, ?_⟩⟩)
    · obtain ⟨hattempts, htransitions, hevents⟩ := IdRows.mk.inj hs
      simp [Rows.ofId, List.filter_append, hattempts, htransitions, hevents,
        TransitionArgs.transition]
    · simp [TransitionArgs.left, TransitionArgs.row, hverdict]

variable (transitionId) in
theorem program_leaves (call : CanonCall) :
    (program call).Meets (.advisory transitionId) (Rows.ofId transitionId) (fun _ => True)
      (Leaves transitionId call) .free := by
  have htransition (a : TransitionArgs) (hargs : call.args? = some a) :
      (transitionCanonState a).Meets (.advisory transitionId) (Rows.ofId transitionId)
        (fun _ => True) (Leaves transitionId call) .free := by
    simp only [transitionCanonState, Program.meets_bind, Program.meets_readLocked_free,
      Program.meets_read_free, Program.meets_read_held, List.mem_singleton, Lock.advisory.injEq]
    refine fun v => ⟨fun hne v => ?_, fun hid _ v' hv' => ?_⟩
    · have hfree (answer : Answer) : Leaves transitionId call answer .free := by
        intro a' hargs' hid
        obtain rfl : a = a' := Option.some.inj (hargs.symm.trans hargs')
        exact hne hid.symm
      cases v.attempts.find? (·.attemptId = a.transitionId) with
      | some attempt => exact Program.meets_pure.2 (hfree _)
      | none => exact (ignores_attemptTransition_of_ne fun hid => hne hid.symm).meets hfree
    · obtain rfl := hid
      have hfind : v'.attempts.find? (·.attemptId = a.transitionId) =
          (v.ofId a.transitionId).attempts.head? := by
        rw [← hv']
        exact List.head?_filter.symm
      rw [hfind]
      cases hattempt : (v.ofId a.transitionId).attempts.head? with
      | some attempt =>
        exact Program.meets_pure.2 ⟨a, hargs, rfl, Or.inl ⟨attempt, hattempt, rfl, rfl⟩⟩
      | none => exact meets_attemptTransition_held (List.head?_eq_none_iff.1 hattempt) hargs
  cases call with
  | transition a => exact htransition a rfl
  | storeTransition a =>
    simp only [program, storeTransition, Program.meets_bind, Program.meets_ensure]
    exact fun _ => htransition a rfl
  | insert r =>
    simp only [program, Program.meets_bind, Program.meets_pure]
    exact ignores_insertRecord.meets fun _ a hargs => by cases hargs

end Ids

/-- The call replayed the attempt of another one, or refused its arguments. -/
def Replayed (_call : CanonCall) (answer : Answer) : Prop := ∃ row, answer = .replayed row

theorem never_recordAttempt {call : CanonCall} {a : TransitionArgs} {found : Option CanonRecord}
    {row : TransitionRow} : (recordAttempt a found row).Never (Replayed call) := by
  refine Program.Never.bind _ fun _ => Program.Never.bind _ fun _ => ?_
  rintro ⟨row', h⟩
  cases h

theorem never_attemptTransition {call : CanonCall} {a : TransitionArgs} :
    (attemptTransition a).Never (Replayed call) := by
  refine Program.Never.bind _ fun found => ?_
  cases verdict a found with
  | error code => exact never_recordAttempt
  | ok target =>
    exact Program.Never.bind _ fun _ => Program.Never.bind _ fun _ => never_recordAttempt

theorem program_silent (call : CanonCall) : (program call).Silent (Replayed call) := by
  have htransition (a : TransitionArgs) : (transitionCanonState a).Silent (Replayed call) := by
    refine Program.silent_readLocked fun _ => Program.silent_read fun existing => ?_
    cases existing with
    | some attempt => trivial
    | none => exact never_attemptTransition.silent
  cases call with
  | transition a => exact htransition a
  | storeTransition a =>
    simp only [program, storeTransition, Program.ensure_bind]
    split
    · exact htransition a
    · trivial
  | insert r =>
    refine Program.Never.silent (Program.Never.bind _ fun _ => ?_)
    rintro ⟨row, h⟩
    cases h

/-- Whatever calls run beside each other, of whatever processes: every record has reached its state from
the initial state by the rules, one transition for each version; the calls with an id that returned have
left one attempt and one audit event, those of the first one; and a call that replays them changes
nothing. -/
theorem ledger_lawful [DecidableEq P] (moves : List (Move P CanonCall CanonError)) :
    let x := (readCommitted program Rows.empty).run moves
    let events := (readCommitted program Rows.empty).events moves
    (∀ table recordId, Lawful table (recordOf table recordId x.committed)
      (transitionsOf table recordId x.committed)) ∧
    (∀ transitionId, Used (callsOf transitionId (returned events))
      (x.committed.ofId transitionId)) ∧
    ∀ e ∈ events, ∀ call row, e.output = some ⟨call, .ok (.replayed row)⟩ →
      e.post.committed = e.pre.committed := by
  refine ⟨fun table recordId => ?_, fun transitionId => ?_, fun e he call row houtput => ?_⟩
  · exact lawful_of_serial (serial_run_of (program_turned table recordId) moves) (Or.inl ⟨rfl, rfl⟩)
  · exact used_of_serial (serial_run_of (program_leaves transitionId) moves)
  · exact silent_run program_silent he houtput ⟨row, rfl⟩

/-- A transition of the source `s` to the security check. -/
private def sampleArgs (transitionId : String) : TransitionArgs where
  entityType := "Source"
  recordId := "s"
  expectedVersion := 1
  targetState := "security_check"
  transitionId
  reasonCode := "r"
  traceId := "t"
  policyVersion := "p"
  actorId := "a"

/-- Two processes move a new record at once: the second waits for the lock of its row, and then finds
that its version is the next one. -/
example :
    let moves := [Move.start true (.insert ⟨.sources, "s", "registered", 1⟩), .step true, .step true,
      .start true (.transition (sampleArgs "x")), .start false (.transition (sampleArgs "y"))] ++
      List.replicate 6 (.step true) ++ List.replicate 4 (.step false) ++
      List.replicate 2 (.step true) ++ List.replicate 4 (.step false)
    (returned ((readCommitted program Rows.empty).events moves)).map (·.2) =
      [.inserted, .recorded ⟨some "security_check", some 2, .succeeded, none⟩,
        .recorded ⟨some "security_check", some 2, .denied, some .versionConflict⟩] := by
  decide

end DaonUser.Canon
