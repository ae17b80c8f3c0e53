import DaonUser.Lib.Lists
import DaonUser.Lib.Serially
import DaonUser.Lib.UniqueRows
import DaonUser.Recovery.Reservation

/-!
# Reservations in any interleaving

Whatever transactions run beside each other, no two reservations share a database, a bucket, a destination
or a request, a reservation stays as it is, and a call that shares one of these with a reservation fails
unless it repeats it exactly (`reservations_hold`). A repetition goes through the checks of every call
again, and has no effect.
-/

namespace DaonUser.Recovery

open Lib Program

variable {P ν : Type} [DecidableEq P] {p : Primitives ν} {c : ReserveDestination}
  {records : RestoreRecords}

/-! ## Identities -/

/-- Two reservations have no physical database, bucket, destination or request in common. -/
structure Apart (r r' : Reservation) : Prop where
  database : r.targetDatabaseFingerprint ≠ r'.targetDatabaseFingerprint
  bucket : r.targetBucketFingerprint ≠ r'.targetBucketFingerprint
  destination : ¬(r.registryGenerationId = r'.registryGenerationId ∧
    r.destinationId = r'.destinationId)
  request : ¬(r.tenantId = r'.tenantId ∧ r.workspaceId = r'.workspaceId ∧
    r.requestId = r'.requestId)

theorem apart_iff {r r' : Reservation} : Apart r r' ↔ ¬Clash Reservation.keys r r' := by
  constructor
  · rintro h ⟨key, hr, hr'⟩
    simp only [Reservation.keys, List.mem_cons, List.not_mem_nil, or_false] at hr
    rcases hr with rfl | rfl | rfl | rfl
    · exact h.destination (by simpa [Reservation.keys] using hr')
    · exact h.database (by simpa [Reservation.keys] using hr')
    · exact h.bucket (by simpa [Reservation.keys] using hr')
    · exact h.request (by simpa [Reservation.keys] using hr')
  · intro h
    refine ⟨fun heq => ?_, fun heq => ?_, fun heq => ?_, fun heq => ?_⟩
    · exact h ⟨.targetDatabase r.targetDatabaseFingerprint, by simp [Reservation.keys],
        by simp [Reservation.keys, heq]⟩
    · exact h ⟨.targetBucket r.targetBucketFingerprint, by simp [Reservation.keys],
        by simp [Reservation.keys, heq]⟩
    · exact h ⟨.destination r.registryGenerationId r.destinationId, by simp [Reservation.keys],
        by simp [Reservation.keys, heq]⟩
    · exact h ⟨.request r.tenantId r.workspaceId r.requestId, by simp [Reservation.keys],
        by simp [Reservation.keys, heq]⟩

instance : Std.Symm Apart where
  symm _ _ h := ⟨h.database.symm, h.bucket.symm, fun heq => h.destination ⟨heq.1.symm, heq.2.symm⟩,
    fun heq => h.request ⟨heq.1.symm, heq.2.1.symm, heq.2.2.symm⟩⟩

theorem not_apart_self (r : Reservation) : ¬Apart r r := fun h => h.database rfl

theorem eq_of_not_apart {reservations : List Reservation} (h : reservations.Pairwise Apart)
    {r r' : Reservation} (hr : r ∈ reservations) (hr' : r' ∈ reservations) (hne : ¬Apart r r') :
    r = r' := by
  by_contra hdistinct
  exact hne (h.forall hr hr' hdistinct)

theorem pairwise_apart_iff {reservations : List Reservation} :
    reservations.Pairwise Apart ↔
      reservations.Pairwise fun r r' => ¬Clash Reservation.keys r r' :=
  ⟨fun h => h.imp apart_iff.1, fun h => h.imp apart_iff.2⟩

/-- A reservation is there when its call returns, and nothing else is new. -/
def Reserves : RestoreCall → Unit → List Reservation → List Reservation → Prop
  | .reserve c, _, seen, added => c.values ∈ seen ∧ (added = [] ∨ added = [c.values] ∧ c.values.Checks)
  | .change _ _, _, _, added => added = []

theorem guard_appends {settings : Settings} {new : Reservation}
    {Q : Unit → List Reservation → List Reservation → Prop} {seen added : List Reservation}
    (h : ∀ seen', Q () seen' added) :
    (guardRegisteredRestoreInsert settings new).Appends (·.reservations) Reservation.keys Q seen
      added := by
  refine appends_bind (appends_readLocked fun v _ => ?_)
  refine appends_bind (appends_require.2 fun parent _ => ?_)
  refine appends_bind (appends_read fun v _ => ?_)
  refine appends_bind (appends_ensure.2 fun _ => ?_)
  refine appends_bind (appends_ensure.2 fun _ => ?_)
  refine appends_bind (appends_read fun v _ => ?_)
  refine appends_bind (appends_ensure.2 fun _ => ?_)
  refine appends_bind (appends_read fun v _ => ?_)
  exact appends_ensure.2 fun _ => h _

theorem insertReservation_appends {settings : Settings} {new : Reservation}
    {Q : Unit → List Reservation → List Reservation → Prop}
    (h : ∀ seen' added', added' = [] ∨ added' = [new] ∧ new.Checks → Q () seen' added') :
    (insertReservation settings new).Appends (·.reservations) Reservation.keys Q [] [] := by
  refine appends_bind (guard_appends fun seen => ?_)
  refine appends_bind (appends_read fun v _ => ?_)
  refine appends_bind (appends_ensure.2 fun _ => ?_)
  refine appends_bind (appends_ensure.2 fun hchecks => ?_)
  intro v _
  by_cases hadmits : Admits v new
  · refine ⟨some new, fun s => by simp [hadmits], ?_, h _ _ (Or.inr ⟨rfl, hchecks⟩)⟩
    rintro r ⟨⟩
    exact ⟨by simp [hadmits], hadmits⟩
  · exact ⟨none, fun s => by simp [hadmits], by simp, h _ _ (Or.inl rfl)⟩

theorem mem_of_findReservation {rows : ReservationRows} {r : Reservation}
    (h : findReservation c rows = some r) : r ∈ rows.reservations := List.mem_of_find?_eq_some h

theorem program_appends (p : Primitives ν) (call : RestoreCall) :
    (call.program p).Appends (·.reservations) Reservation.keys (Reserves call) [] [] := by
  cases call with
  | reserve c =>
    refine appends_bind (appends_ensure.2 fun _ => ?_)
    refine appends_bind (insertReservation_appends fun seen added hadded => ?_)
    refine appends_bind (appends_read fun v _ => ?_)
    exact appends_ensure.2 fun hrow => ⟨mem_of_findReservation hrow, hadded⟩
  | change locks write => exact appends_statement (fun _ _ => rfl) fun _ _ => rfl

theorem reserveDestination_keeps (p : Primitives ν) (c : ReserveDestination) :
    (reserveDestination p c).Keeps (·.records) := by
  refine keeps_bind keeps_ensure fun _ => keeps_bind (keeps_bind ?_ fun _ => ?_) fun _ => ?_
  · refine keeps_bind keeps_readLocked fun _ => keeps_bind keeps_require fun _ => ?_
    refine keeps_bind keeps_read fun _ => keeps_bind keeps_ensure fun _ => ?_
    refine keeps_bind keeps_ensure fun _ => keeps_bind keeps_read fun _ => ?_
    refine keeps_bind keeps_ensure fun _ => keeps_bind keeps_read fun _ => ?_
    exact keeps_ensure
  · refine keeps_bind keeps_read fun _ => keeps_bind keeps_ensure fun _ => ?_
    refine keeps_bind keeps_ensure fun _ => fun v => ⟨fun s => ?_, trivial⟩
    dsimp only
    split
    · rfl
    · rfl
  · exact keeps_bind keeps_read fun _ => keeps_ensure

/-! ## Runs -/

variable (P) in
abbrev Restores := Cluster P RestoreCall ReservationRows ReservationLock ReservationError Unit

/-- No two reservations have anything in common, and each has passed the checks of the table. -/
structure InOrder (x : Restores P) : Prop where
  growing : Growing (·.reservations) Reservation.keys Reserves x
  checked : ∀ r ∈ x.committed.reservations, r.Checks

/-- What a step does to the reservations: they stay as they are, or there is the one of a call that
returns. -/
def Reserved (x x' : Restores P) : Option (Ended RestoreCall ReservationError Unit) → Prop
  | some ⟨.reserve c, .ok _⟩ => c.values ∈ x'.committed.reservations ∧
      (x'.committed.reservations = x.committed.reservations ∨
        x'.committed.reservations = x.committed.reservations ++ [c.values] ∧ c.values.Checks)
  | some ⟨.change _ _, .ok _⟩ => x'.committed.reservations = x.committed.reservations
  | _ => x'.committed = x.committed

theorem InOrder.growing_next {x : Restores P} (h : InOrder x)
    (move : Move P RestoreCall ReservationError) :
    Growing (·.reservations) Reservation.keys Reserves ((restoreDatabase p records).next x move) ∧
      Reserved x ((restoreDatabase p records).next x move)
        ((restoreDatabase p records).answer x move) := by
  obtain ⟨hgrowing, hgrew⟩ := h.growing.next ⟨[], records⟩ (program_appends p) move
  refine ⟨hgrowing, ?_⟩
  change Grew (·.reservations) Reserves x ((restoreDatabase p records).next x move)
    ((restoreDatabase p records).answer x move) at hgrew
  generalize (restoreDatabase p records).answer x move = answer at hgrew ⊢
  rcases answer with _ | ⟨c | ⟨locks, write⟩, e | a⟩
  · exact hgrew
  · exact hgrew
  · obtain ⟨seen, added, ⟨hmem, hadded⟩, hseen, hrows⟩ := hgrew
    refine ⟨hseen hmem, ?_⟩
    rcases hadded with rfl | ⟨rfl, hchecks⟩
    · exact Or.inl (hrows.trans (List.append_nil _))
    · exact Or.inr ⟨hrows, hchecks⟩
  · exact hgrew
  · obtain ⟨seen, added, rfl, -, hrows⟩ := hgrew
    exact hrows.trans (List.append_nil _)

omit [DecidableEq P] in
theorem Reserved.checked {x x' : Restores P}
    {answer : Option (Ended RestoreCall ReservationError Unit)} (h : Reserved x x' answer)
    (hchecked : ∀ r ∈ x.committed.reservations, r.Checks) :
    ∀ r ∈ x'.committed.reservations, r.Checks := by
  rcases answer with _ | ⟨c | ⟨locks, write⟩, e | a⟩
  · rwa [show x'.committed = x.committed from h]
  · rwa [show x'.committed = x.committed from h]
  · obtain ⟨-, hrows | ⟨hrows, hnew⟩⟩ := h
    · rwa [hrows]
    · intro r hr
      rw [hrows] at hr
      rcases List.mem_append.1 hr with hold | hr
      · exact hchecked r hold
      · rwa [List.mem_singleton.1 hr]
  · rwa [show x'.committed = x.committed from h]
  · rwa [show x'.committed.reservations = x.committed.reservations from h]

theorem InOrder.next {x : Restores P} (h : InOrder x) (move : Move P RestoreCall ReservationError) :
    InOrder ((restoreDatabase p records).next x move) :=
  ⟨(h.growing_next move).1, (h.growing_next move).2.checked h.checked⟩

theorem inOrder_of_reachable {x : Restores P} (h : (restoreDatabase p records).Reachable x) :
    InOrder x :=
  h.induction ⟨⟨.nil, by simp [restoreDatabase, readCommitted]⟩,
    by simp [restoreDatabase, readCommitted]⟩ fun _ move hx => hx.next move

omit [DecidableEq P] in
theorem InOrder.apart {x : Restores P} (h : InOrder x) :
    x.committed.reservations.Pairwise Apart :=
  pairwise_apart_iff.2 h.growing.unique

omit [DecidableEq P] in
theorem Reserved.grows {x x' : Restores P}
    {answer : Option (Ended RestoreCall ReservationError Unit)} (h : Reserved x x' answer) :
    x.committed.reservations <+: x'.committed.reservations := by
  rcases answer with _ | ⟨c | ⟨locks, write⟩, e | a⟩
  · rw [show x'.committed = x.committed from h]
  · rw [show x'.committed = x.committed from h]
  · obtain ⟨-, hrows | ⟨hrows, -⟩⟩ := h
    · rw [hrows]
    · rw [hrows]
      exact List.prefix_append _ _
  · rw [show x'.committed = x.committed from h]
  · rw [show x'.committed.reservations = x.committed.reservations from h]

/-- What the trigger and the policy ask of the other rows: the request is the actor's, for this backup, not
under way and not one of a fixture, the actor is allowed, and the backup is ready with this manifest. -/
structure Reservable (c : ReserveDestination) (records : RestoreRecords) : Prop where
  parent : ∃ q, records.requests.find? (·.isParent c.settings c.values) = some q ∧
    q.actorId = c.values.actorId ∧ q.backupId = c.values.backupId ∧ q.state ∈ reservableStates
  allowed : registeredRestoreActorAllowed c.settings records c.values.tenantId c.values.workspaceId
    c.values.actorId = true
  notFixture : hasPreview records c.values = false
  backup : ∃ b ∈ findBackup records c.values, b.state = .ready
  manifest : ∃ m ∈ findManifest records c.values,
    m.manifestDigest = c.values.sourceManifestDigest ∧ m.encryptedInventory.take 4 = manifestMagic

theorem RestoreRequest.isParent_iff {settings : Settings} {new : Reservation} {q : RestoreRequest} :
    q.isParent settings new = true ↔ q.tenantId = new.tenantId ∧ q.workspaceId = new.workspaceId ∧
      q.requestId = new.requestId ∧ isSetting settings.tenantId q.tenantId = true ∧
      isSetting settings.workspaceId q.workspaceId = true := by
  simp [RestoreRequest.isParent, and_assoc]

theorem Reservable.inReservationScope (h : Reservable c records) :
    inReservationScope c.settings records c.values = true := by
  obtain ⟨q, hq, hactor, -, -⟩ := h.parent
  have hparent := RestoreRequest.isParent_iff.1 (List.find?_some hq)
  unfold Recovery.inReservationScope
  rw [h.allowed, Bool.true_and, List.any_eq_true]
  refine ⟨q, List.mem_of_find?_eq_some hq, ?_⟩
  simp [hparent, hactor]

/-- The rows hold the reservation already, and the checks admit it. -/
structure Repeats (c : ReserveDestination) (rows : ReservationRows) : Prop where
  reservable : Reservable c rows.records
  stored : c.values ∈ rows.reservations
  apart : rows.reservations.Pairwise Apart

theorem Repeats.not_admits {rows : ReservationRows} (h : Repeats c rows) : ¬Admits rows c.values := by
  intro hadmits
  refine hadmits _ h.stored ⟨.targetDatabase c.values.targetDatabaseFingerprint, ?_, ?_⟩
  · simp [Reservation.keys]
  · simp [Reservation.keys]

theorem Repeats.findReservation {rows : ReservationRows} (h : Repeats c rows) :
    findReservation c rows = some c.values := by
  refine find?_eq_some_of_unique h.stored (by simp [h.reservable.inReservationScope]) ?_
  intro r hr hfound
  refine eq_of_not_apart h.apart hr h.stored fun hapart => hapart.destination ?_
  simp only [Bool.and_eq_true, decide_eq_true_eq] at hfound
  exact hfound.1

theorem reserveDestination_calm (hc : c.Accepted p) (hchecks : c.values.Checks) :
    (reserveDestination p c).Calm (Repeats c)
      (· = .restoreRequest c.values.tenantId c.values.workspaceId c.values.requestId)
      (· = .ok ()) 7 := by
  unfold reserveDestination insertReservation guardRegisteredRestoreInsert lockParent
  simp only [Program.bind_assoc]
  refine calm_ensure hc (calm_readLocked (fun v hv l hl => ?_) fun v hv => ?_)
  · obtain ⟨q, hq, rfl⟩ := List.mem_map.1 hl
    obtain ⟨htenant, hworkspace, hrequest, -⟩ :=
      RestoreRequest.isParent_iff.1 (List.mem_filter.1 hq).2
    rw [htenant, hworkspace, hrequest]
  obtain ⟨q, hq, hactor, hbackup, hstate⟩ := hv.reservable.parent
  refine calm_require hq (calm_read fun v hv => ?_)
  refine calm_ensure (by simp [hactor, hv.reservable.allowed, hv.reservable.notFixture]) ?_
  refine calm_ensure ⟨hbackup, hstate⟩ (calm_read fun v hv => ?_)
  refine calm_ensure hv.reservable.backup (calm_read fun v hv => ?_)
  refine calm_ensure hv.reservable.manifest (calm_read fun v hv => ?_)
  refine calm_ensure hv.reservable.inReservationScope (calm_ensure hchecks ?_)
  intro v hv
  refine ⟨fun s => if_neg hv.not_admits, fun l hl => ?_, ?_⟩
  · simp [hv.not_admits] at hl
  change ((Program.read (findReservation c) : Statements _) >>= fun row =>
    Program.ensure (row = some c.values) .rejected).Calm _ _ _ 1
  refine calm_read fun v hv => ?_
  simp [hv.findReservation, Program.ensure, Calm]

/-! ## Every run -/

/-- What a step keeps to: reservations stay, a reservation is there when its call returns, a call that
repeats one or fails changes nothing, and one that has something in common with a reservation that it does
not repeat fails. -/
structure KeepsReservations
    (e : Event (Restores P) (Move P RestoreCall ReservationError)
      (Option (Ended RestoreCall ReservationError Unit))) : Prop where
  grows : e.pre.committed.reservations <+: e.post.committed.reservations
  stored : ∀ c, e.output = some ⟨.reserve c, .ok ()⟩ →
    c.values ∈ e.post.committed.reservations ∧ e.post.committed.records = e.pre.committed.records
  repeated : ∀ c, e.output = some ⟨.reserve c, .ok ()⟩ →
    c.values ∈ e.pre.committed.reservations → e.post.committed = e.pre.committed
  refused : ∀ c outcome, e.output = some ⟨.reserve c, outcome⟩ →
    ∀ r ∈ e.pre.committed.reservations, ¬Apart r c.values → r ≠ c.values → ∃ error, outcome = .error error
  failed : ∀ call error, e.output = some ⟨call, .error error⟩ → e.post.committed = e.pre.committed

theorem keepsReservations {moves : List (Move P RestoreCall ReservationError)}
    {e : Event (Restores P) (Move P RestoreCall ReservationError)
      (Option (Ended RestoreCall ReservationError Unit))}
    (he : e ∈ (restoreDatabase p records).events moves) : KeepsReservations e := by
  have hkeeps : ∀ call, (∃ c, call = RestoreCall.reserve c) →
      (call.program p).Keeps fun rows : ReservationRows => rows.records := by
    rintro call ⟨c, rfl⟩
    exact reserveDestination_keeps p c
  have hrecords : ∀ c, e.output = some ⟨.reserve c, .ok ()⟩ →
      e.post.committed.records = e.pre.committed.records :=
    fun c houtput => keeping_event hkeeps he houtput ⟨c, rfl⟩
  obtain ⟨x, move, hreachable, -, rfl⟩ := (restoreDatabase p records).mem_events he
  have hx := inOrder_of_reachable hreachable
  have hreserved : Reserved x ((restoreDatabase p records).next x move)
      ((restoreDatabase p records).answer x move) := (hx.growing_next move).2
  have hnext : InOrder ((restoreDatabase p records).next x move) := hx.next move
  change ∀ c, (restoreDatabase p records).answer x move = _ → _ at hrecords
  constructor
  · exact hreserved.grows
  · intro c houtput
    change (restoreDatabase p records).answer x move = _ at houtput
    refine ⟨?_, hrecords c houtput⟩
    rw [houtput] at hreserved
    exact hreserved.1
  · intro c houtput hstored
    change (restoreDatabase p records).answer x move = _ at houtput
    have hsame := hrecords c houtput
    rw [houtput] at hreserved
    obtain ⟨-, hrows | ⟨hrows, -⟩⟩ := hreserved
    · exact ReservationRows.ext hrows hsame
    · -- a second row with the same keys
      have hapart := hnext.apart
      rw [hrows, List.pairwise_append] at hapart
      exact absurd (hapart.2.2 _ hstored _ (List.mem_singleton_self _)) (not_apart_self _)
  · intro c outcome houtput r hr hne hother
    change (restoreDatabase p records).answer x move = _ at houtput
    cases outcome with
    | error error => exact ⟨error, rfl⟩
    | ok a =>
      rw [houtput] at hreserved
      exact absurd (eq_of_not_apart hnext.apart (hreserved.grows.subset hr) hreserved.1 hne) hother
  · intro call error houtput
    change (restoreDatabase p records).answer x move = _ at houtput
    rw [houtput] at hreserved
    cases call with
    | reserve c => exact hreserved
    | change locks write => exact hreserved

theorem InOrder.grows_runFrom {x : Restores P} (h : InOrder x)
    (moves : List (Move P RestoreCall ReservationError)) :
    x.committed.reservations <+:
      ((restoreDatabase p records).runFrom x moves).committed.reservations := by
  refine (restoreDatabase p records).related_runFrom
    (R := fun x x' : Restores P => x.committed.reservations <+: x'.committed.reservations)
    (I := InOrder) (fun x => List.prefix_refl _) (fun h h' => h.trans h')
    (fun x move hx => hx.next move) (fun x move hx => ?_) h moves
  have hreserved : Reserved x ((restoreDatabase p records).next x move)
      ((restoreDatabase p records).answer x move) := (hx.growing_next move).2
  exact hreserved.grows

theorem repetition_returns {x : Restores P} {q : P} (hx : InOrder x) (hidle : x.sessions q = none)
    (hc : c.Accepted p) (hstored : c.values ∈ x.committed.reservations)
    {later : List (Move P RestoreCall ReservationError)}
    (hlater : (restoreDatabase p records).AllSteps
      (fun x move => Reservable c x.committed.records ∧ move.Leaves q)
      ((restoreDatabase p records).next x (.start q (.reserve c))) later)
    {e : Event (Restores P) (Move P RestoreCall ReservationError)
      (Option (Ended RestoreCall ReservationError Unit))}
    (he : e ∈ (restoreDatabase p records).eventsFrom
      ((restoreDatabase p records).next x (.start q (.reserve c))) later) :
    EndsCalmly (· = .ok ()) (.reserve c) q e := by
  have hsteps : (restoreDatabase p records).AllSteps
      (fun x move => Repeats c x.committed ∧ move.Leaves q)
      ((restoreDatabase p records).next x (.start q (.reserve c))) later := by
    refine (restoreDatabase p records).allSteps_of
      (Q := fun x : Restores P => InOrder x ∧ c.values ∈ x.committed.reservations)
      (fun x move hx hmove => ?_) (fun x move hx hmove => ?_) ⟨hx.next _, ?_⟩ hlater
    · have hgrows : x.committed.reservations <+:
          ((restoreDatabase p records).next x move).committed.reservations :=
        hx.1.grows_runFrom [move]
      exact ⟨hx.1.next move, hgrows.subset hx.2⟩
    · exact ⟨⟨hmove.1, hx.2, hx.1.apart⟩, hmove.2⟩
    · have hgrows : x.committed.reservations <+: ((restoreDatabase p records).next x
          (.start q (.reserve c))).committed.reservations := hx.grows_runFrom [_]
      exact hgrows.subset hstored
  exact calm_call_run hidle (reserveDestination_calm hc (hx.checked _ hstored)) hsteps he

theorem repetition_ends {x : Restores P} {q : P} (hx : InOrder x) (hidle : x.sessions q = none)
    (hc : c.Accepted p) (hstored : c.values ∈ x.committed.reservations)
    (hreservable : Reservable c x.committed.records)
    (hfree : x.holder
      (.restoreRequest c.values.tenantId c.values.workspaceId c.values.requestId) = none) :
    ∃ n ≤ 7, (restoreDatabase p records).answer ((restoreDatabase p records).runFrom
      ((restoreDatabase p records).next x (.start q (.reserve c))) (List.replicate n (.step q)))
        (.step q) = some ⟨.reserve c, .ok ()⟩ := by
  have hcalm : ((RestoreCall.reserve c).program p).Calm (Repeats c)
      (· = .restoreRequest c.values.tenantId c.values.workspaceId c.values.requestId) (· = .ok ()) 7 :=
    reserveDestination_calm hc (hx.checked _ hstored)
  obtain ⟨n, hn, outcome, rfl, hanswer⟩ := calm_call_alone ⟨[], records⟩ hidle hcalm
    ⟨hreservable, hstored, hx.apart⟩ (by rintro l rfl; exact hfree)
  exact ⟨n, hn, hanswer⟩

/-- Whatever transactions run beside each other, no two reservations have anything in common, every step
keeps to the reservations, and so does every later one. A call that repeats a reservation exactly and passes
the checks that every call goes through returns without effect whenever it ends, and it ends when no other
process holds the row of its request. -/
theorem reservations_hold (p : Primitives ν) (records : RestoreRecords)
    (moves : List (Move P RestoreCall ReservationError)) :
    let db := restoreDatabase (P := P) p records
    (db.run moves).committed.reservations.Pairwise Apart ∧
    (∀ e ∈ db.events moves, KeepsReservations e) ∧
    (∀ later, (db.run moves).committed.reservations <+:
      (db.run (moves ++ later)).committed.reservations) ∧
    ∀ q c, (db.run moves).sessions q = none → c.Accepted p →
      c.values ∈ (db.run moves).committed.reservations →
      let started := db.next (db.run moves) (.start q (.reserve c))
      (∀ later, db.AllSteps (fun x move => Reservable c x.committed.records ∧ move.Leaves q)
          started later →
        ∀ e ∈ db.eventsFrom started later, e.input = .step q → ∀ ended, e.output = some ended →
          ended = ⟨.reserve c, .ok ()⟩ ∧ e.post.committed = e.pre.committed) ∧
      (Reservable c (db.run moves).committed.records →
        (db.run moves).holder
          (.restoreRequest c.values.tenantId c.values.workspaceId c.values.requestId) = none →
        ∃ n ≤ 7, db.answer (db.runFrom started (List.replicate n (.step q))) (.step q) =
          some ⟨.reserve c, .ok ()⟩) := by
  intro db
  have hx : InOrder (db.run moves) := inOrder_of_reachable ⟨moves, rfl⟩
  refine ⟨hx.apart, fun e he => keepsReservations he, fun later => ?_, ?_⟩
  · rw [db.run_append]
    exact hx.grows_runFrom later
  · intro q c hidle hc hstored started
    refine ⟨fun later hlater e he hinput ended hended => ?_, fun hreservable hfree => ?_⟩
    · obtain ⟨hcall, houtcome, hsame⟩ := repetition_returns hx hidle hc hstored hlater he hinput ended hended
      obtain ⟨call, outcome⟩ := ended
      obtain rfl : call = _ := hcall
      obtain rfl : outcome = _ := houtcome
      exact ⟨rfl, hsame⟩
    · exact repetition_ends hx hidle hc hstored hreservable hfree

def sampleReserve : ReserveDestination where
  settings := ⟨"t", "w", "u"⟩
  context := ⟨"t", "w", "u"⟩
  destination :=
    { registryGenerationId := "g1", destinationId := "d1", version := 1
      expiresAt := "2026-07-01T12:00:00Z", tenantId := "t", workspaceId := "w", actorId := "u"
      physicalReceiptDigest := String.ofList (List.replicate 64 '0')
      targetDatabaseFingerprint := String.ofList (List.replicate 64 '1')
      targetBucketFingerprint := String.ofList (List.replicate 64 '2')
      ownerOperationId := "o1", observedAt := 1782864000000000 }
  requestId := "r"
  backupId := "b"
  manifestDigest := String.ofList (List.replicate 64 'a')
  now := 1782864000000000

def sampleRecords : RestoreRecords where
  requests := [⟨"t", "w", "r", "b", "u", .requested⟩]
  previews := []
  backups := [⟨"t", "w", "b", .ready⟩]
  manifests := [⟨"t", "w", "b", 3, String.ofList (List.replicate 64 'a'), manifestMagic⟩]
  users := [⟨"u", "active"⟩]
  workspaces := [⟨"t", "w", "personal"⟩]
  tenantRoles := [⟨"t", "u", "personal_owner", "active"⟩]
  memberships := []
  tenantMemberships := []

theorem reservations_hold_sample : ∃ moves,
    let db := restoreDatabase (P := Unit) samplePrimitives sampleRecords
    (db.run moves).committed = ⟨[sampleReserve.values], sampleRecords⟩ ∧
      ∃ n ≤ 7, db.answer (db.runFrom (db.next (db.run moves) (.start () (.reserve sampleReserve)))
        (List.replicate n (.step ()))) (.step ()) = some ⟨.reserve sampleReserve, .ok ()⟩ := by
  obtain ⟨moves, -, hrun, -⟩ := exists_moves (RestoreCall.program samplePrimitives)
    ⟨[], sampleRecords⟩ () [.reserve sampleReserve] ⟨[], sampleRecords⟩
  have hrows : (serially (RestoreCall.program samplePrimitives) [.reserve sampleReserve]
      ⟨[], sampleRecords⟩).2 = ⟨[sampleReserve.values], sampleRecords⟩ := by decide
  rw [hrows] at hrun
  change (restoreDatabase samplePrimitives sampleRecords).run moves = _ at hrun
  have hhold := (reservations_hold (P := Unit) samplePrimitives sampleRecords moves).2.2.2 ()
    sampleReserve
  refine ⟨moves, by rw [hrun]; rfl, ?_⟩
  rw [hrun] at hhold ⊢
  have hreservable : Reservable sampleReserve sampleRecords :=
    ⟨⟨_, by rfl, by decide⟩, by decide, by decide, by decide,
      by decide⟩
  exact (hhold rfl (by decide) (List.mem_singleton_self _)).2 hreservable rfl

def restoring (records : RestoreRecords) : RestoreRecords :=
  { records with requests := records.requests.map fun q => { q with state := .restoring } }

/-- The reservation is made and repeated, and the same call fails later: when the destination was
observed more than 30 s before, and when the request is under way. -/
theorem repetition_refused : ∃ moves : List (Move Unit RestoreCall ReservationError),
    (∀ move ∈ moves, ∀ e, move ≠ .abort () e) ∧
    let ended := ((restoreDatabase samplePrimitives sampleRecords).events moves).filterMap (·.output)
    ended.map (·.call) = [.reserve sampleReserve, .reserve sampleReserve,
      .reserve { sampleReserve with now := sampleReserve.now + 30000001 },
      .change (fun _ => []) (fun _ => restoring), .reserve sampleReserve] ∧
    ended.map (·.outcome) = [.ok (), .ok (), .error .rejected, .ok (), .error .parentConflict] := by
  obtain ⟨moves, hevents, -, hmoves⟩ := exists_moves (RestoreCall.program samplePrimitives)
    ⟨[], sampleRecords⟩ () [.reserve sampleReserve, .reserve sampleReserve,
      .reserve { sampleReserve with now := sampleReserve.now + 30000001 },
      .change (fun _ => []) (fun _ => restoring), .reserve sampleReserve] ⟨[], sampleRecords⟩
  refine ⟨moves, fun move hmove e heq => ?_, ?_⟩
  · rcases hmoves move hmove with ⟨call, hcall⟩ | hstep
    · rw [heq] at hcall
      cases hcall
    · rw [heq] at hstep
      cases hstep
  · change ((restoreDatabase samplePrimitives sampleRecords).events moves).filterMap (·.output) = _
      at hevents
    simp only [hevents]
    exact ⟨map_call_serially _ _ _, by decide⟩

end DaonUser.Recovery
