import DaonUser.Lib.Script
import DaonUser.Snapshot.Model

/-!
# The frames of a worker

A worker process reads an object or a file and sends it in frames through a pipe, and `_OwnedReader` hands
out what they carry. `read_bounded_spec` says what a session of reads comes to on any bytes in any pieces,
and `worker_read` what it comes to on the bytes of a worker, that may also die at any of them.
-/

namespace DaonUser.Snapshot

open Lib (Script Network)
open Lib.Script (takes_bind_eq_ok takes_exact_eq_ok)

/-- `PAYLOAD`. -/
def maxPayload : Nat := 65536 - 5

/-- `CHUNK`. -/
def maxChunk : Nat := 4 * 1024 * 1024

/-- `b"D"`. -/
def kindData : UInt8 := 68

/-- `b"E"`. -/
def kindEnd : UInt8 := 69

/-- `b"U"`. -/
def kindUncertain : UInt8 := 85

/-- `b"X"`. -/
def kindFailed : UInt8 := 88

def kinds : List UInt8 := [kindData, kindEnd, kindFailed, kindUncertain]

def frame (kind : UInt8) (data : Bytes) : Option Bytes :=
  if data.length ≤ maxPayload then (pack data.length).map fun size => kind :: size ++ data else none

def nextFrame {ε : Type} (known : List UInt8) (e : ε) : Script ε UInt8 (UInt8 × Bytes) :=
  .exact 5 e fun head =>
    let kind := head.headD 0
    let size := unpack head.tail
    if maxPayload < size ∨ kind ∉ known ∨ (kind = kindData ↔ size = 0) then .raise e
    else .exact size e fun data => pure (kind, data)

/-! ## Frames -/

/-- The data frames of these payloads. -/
inductive Carries : List Bytes → Bytes → Prop
  | nil : Carries [] []
  | cons {data bytes s : Bytes} {payloads : List Bytes} : data ≠ [] → frame kindData data = some bytes →
      Carries payloads s → Carries (data :: payloads) (bytes ++ s)

section Frames

variable {kind kind' : UInt8} {data data' bytes bytes' s s' content : Bytes} {ε : Type}

/-- The data frames of this content, and an end frame. -/
def Whole (s content : Bytes) : Prop :=
  ∃ payloads sent ending, Carries payloads sent ∧ frame kindEnd [] = some ending ∧
    s = sent ++ ending ∧ content = payloads.flatten

theorem frame_eq_some : frame kind data = some bytes ↔
    data.length ≤ maxPayload ∧ ∃ size, pack data.length = some size ∧ bytes = kind :: size ++ data := by
  unfold frame
  split
  · next h => simp [h, eq_comm]
  · next h => simp [h]

theorem exists_frame (kind : UInt8) (h : data.length ≤ maxPayload) : ∃ bytes, frame kind data = some bytes := by
  rw [frame, if_pos h, pack, if_pos (h.trans_lt (by decide))]
  exact ⟨_, rfl⟩

theorem frame_inj (h : frame kind data = some bytes) (h' : frame kind' data' = some bytes')
    (heq : bytes ++ s = bytes' ++ s') : kind = kind' ∧ data = data' ∧ s = s' := by
  obtain ⟨-, size, hsize, rfl⟩ := frame_eq_some.1 h
  obtain ⟨-, size', hsize', rfl⟩ := frame_eq_some.1 h'
  obtain ⟨hunpack, hlength⟩ := unpack_pack hsize
  obtain ⟨hunpack', hlength'⟩ := unpack_pack hsize'
  simp only [List.cons_append, List.append_assoc, List.cons.injEq] at heq
  obtain ⟨rfl, htail⟩ := heq
  obtain ⟨rfl, hrest⟩ := List.append_inj htail (hlength.trans hlength'.symm)
  obtain ⟨rfl, rfl⟩ := List.append_inj hrest (hunpack.symm.trans hunpack')
  exact ⟨rfl, rfl, rfl⟩

theorem Carries.split {payloads payloads' : List Bytes} {sent sent' ending t u : Bytes}
    (h : Carries payloads sent) (h' : Carries payloads' sent') (hending : frame kind [] = some ending)
    (hkind : kind ≠ kindData) (heq : sent ++ t = sent' ++ (ending ++ u)) :
    ∃ rest more, payloads' = payloads ++ rest ∧ Carries rest more ∧ t = more ++ (ending ++ u) := by
  induction h generalizing payloads' sent' with
  | nil => exact ⟨payloads', sent', rfl, h', heq⟩
  | cons _ hframe _ ih =>
    rw [List.append_assoc] at heq
    cases h' with
    | nil => exact absurd (frame_inj hframe hending heq).1.symm hkind
    | cons _ hframe' hrest' =>
      rw [List.append_assoc] at heq
      obtain ⟨-, rfl, htail⟩ := frame_inj hframe hframe' heq
      obtain ⟨rest, more, rfl, hmore, ht⟩ := ih hrest' htail
      exact ⟨rest, more, rfl, hmore, ht⟩

theorem Whole.of_front {payloads : List Bytes} {sent ending t : Bytes} (h : Whole s content)
    (h' : Carries payloads sent) (hending : frame kind [] = some ending) (hkind : kind ≠ kindData)
    (heq : s ++ t = sent ++ ending) : kind = kindEnd ∧ t = [] ∧ content = payloads.flatten := by
  obtain ⟨_, _, _, hsent, hend, rfl, rfl⟩ := h
  rw [List.append_assoc, ← List.append_nil ending] at heq
  obtain ⟨_, _, rfl, hmore, ht⟩ := hsent.split h' hending hkind heq
  cases hmore with
  | nil =>
    obtain ⟨rfl, -, rfl⟩ := frame_inj hend hending ht
    exact ⟨rfl, rfl, by rw [List.append_nil]⟩
  | cons _ hframe _ =>
    rw [List.append_assoc] at ht
    exact absurd (frame_inj hend hframe ht).1 (by decide)

theorem Carries.append {payloads payloads' : List Bytes} (h : Carries payloads s) (h' : Carries payloads' s') :
    Carries (payloads ++ payloads') (s ++ s') := by
  induction h with
  | nil => exact h'
  | cons hne hframe _ ih =>
    rw [List.append_assoc]
    exact .cons hne hframe ih

theorem nextFrame_eq_ok {known : List UInt8} {e : ε} {rest : Bytes} :
    (nextFrame known e).takes s = .ok ((kind, data), rest) ↔ kind ∈ known ∧ (kind = kindData ↔ data ≠ []) ∧
      ∃ bytes, frame kind data = some bytes ∧ s = bytes ++ rest := by
  constructor
  · intro h
    obtain ⟨head, mid, hlength, rfl, hhead⟩ := takes_exact_eq_ok h
    obtain ⟨kind', size, rfl⟩ := List.exists_cons_of_length_eq_add_one hlength
    dsimp only [List.headD_cons, List.tail_cons] at hhead
    split at hhead
    · cases hhead
    · next hvalid =>
      simp only [not_or, not_not, not_lt] at hvalid
      obtain ⟨data', rest', hdata, rfl, hdone⟩ := takes_exact_eq_ok hhead
      obtain ⟨hframe, rfl⟩ := Prod.mk.inj (Except.ok.inj hdone)
      obtain ⟨rfl, rfl⟩ := Prod.mk.inj hframe
      obtain ⟨hle, hknown, hsize⟩ := hvalid
      rw [← hdata, List.length_eq_zero_iff] at hsize
      refine ⟨hknown, by tauto, _, frame_eq_some.2 ⟨hdata ▸ hle, size, ?_, rfl⟩, (List.append_assoc ..).symm⟩
      rw [hdata]
      exact pack_unpack (Nat.add_right_cancel hlength)
  · rintro ⟨hknown, hdata, bytes, hframe, rfl⟩
    obtain ⟨hle, size, hsize, rfl⟩ := frame_eq_some.1 hframe
    obtain ⟨hunpack, hlength⟩ := unpack_pack hsize
    have hfive : (kind :: size).length = 5 := by rw [List.length_cons, hlength]
    rw [List.append_assoc, nextFrame, ← hfive, Script.takes_exact_append]
    have hvalid : ¬(maxPayload < data.length ∨ kind ∉ known ∨ (kind = kindData ↔ data.length = 0)) := by
      rw [List.length_eq_zero_iff, hdata]
      simp [hknown, not_lt.2 hle]
    simp only [List.headD_cons, List.tail_cons, hunpack, if_neg hvalid, Script.takes_exact_append,
      Script.takes_pure]

end Frames

/-! ## The owned reader -/

def frameInvalid : Exn := .snapshot "SNAPSHOT_FRAME_INVALID"

def sourceUnavailable : Exn := .snapshot "SNAPSHOT_SOURCE_UNAVAILABLE"

def cleanupUncertain : Exn := .snapshot "SNAPSHOT_WORKER_CLEANUP_UNCERTAIN"

/-- How often `poll` finds the child still there after it has closed the pipe, and its exit code then. -/
structure Child where
  rounds : Nat
  status : Int

structure OwnedReader where
  pending : Bytes := []
  ended : Bool := false

/-- `_terminal`. -/
def terminal (status : Int) : Nat → Script Exn UInt8 Unit
  | 0 => .check <| .probe fun trailing =>
    if trailing.isSome then .raise frameInvalid
    else if status ≠ 0 then .raise sourceUnavailable
    else pure ()
  | rounds + 1 => .check <| .probe fun trailing =>
    if trailing.isSome then .raise frameInvalid else terminal status rounds

/-- The payload of the next data frame, `none` after the end frame. -/
def nextPayload (child : Child) : Script Exn UInt8 (Option Bytes) := do
  let (kind, data) ← nextFrame kinds frameInvalid
  if kind = kindUncertain then .raise cleanupUncertain
  else if kind = kindFailed then .raise sourceUnavailable
  else if kind = kindEnd then do
    terminal child.status child.rounds
    return none
  else return some data

def fetch (child : Child) (r : OwnedReader) : Script Exn UInt8 (Option Bytes) :=
  if r.pending ≠ [] then pure (some r.pending) else nextPayload child

/-- `read_bounded`, of a reader that is not closed. The second `check` stands for what `start` raises. -/
def readBounded (child : Child) (maximum : Int) (r : OwnedReader) : Script Exn UInt8 (Bytes × OwnedReader) :=
  if ¬(0 < maximum ∧ maximum ≤ maxChunk) then .raise .invalid
  else .check <|
    if r.ended then pure ([], r)
    else .check <| do
      match ← fetch child r with
      | none => pure ([], { r with ended := true })
      | some data =>
        .check <| pure (data.take maximum.toNat, { r with pending := data.drop maximum.toNat })

/-- What reads with these maxima return before the first that returns nothing, and whether one did. -/
def session (child : Child) : List Int → OwnedReader → Script Exn UInt8 (Bytes × Bool)
  | [], _ => pure ([], false)
  | maximum :: maxima, r => do
    let (value, r) ← readBounded child maximum r
    if value = [] then return ([], true)
    let (rest, ended) ← session child maxima r
    return (value ++ rest, ended)

section Reader

variable {child : Child} {maximum : Int} {maxima : List Int} {r r' : OwnedReader} {s rest out : Bytes}

theorem terminal_eq_ok {status : Int} {rounds : Nat} :
    (terminal status rounds).takes s = .ok ((), rest) ↔ s = [] ∧ rest = [] ∧ status = 0 := by
  cases s with
  | nil =>
    induction rounds with
    | zero =>
      by_cases h : status = 0
      · simp [terminal, h, List.nil_eq]
      · simp [terminal, h]
    | succ rounds ih => simpa [terminal] using ih
  | cons b s => cases rounds <;> simp [terminal]

theorem nextPayload_eq_ok {answer : Option Bytes} : (nextPayload child).takes s = .ok (answer, rest) ↔
    (answer = none ∧ frame kindEnd [] = some s ∧ rest = [] ∧ child.status = 0) ∨
      ∃ data bytes, answer = some data ∧ data ≠ [] ∧ frame kindData data = some bytes ∧ s = bytes ++ rest := by
  constructor
  · intro h
    obtain ⟨⟨kind, data⟩, mid, hnext, hrest⟩ := takes_bind_eq_ok.1 h
    obtain ⟨hknown, hdata, bytes, hframe, rfl⟩ := nextFrame_eq_ok.1 hnext
    simp only [kinds, List.mem_cons, List.not_mem_nil, or_false] at hknown
    rcases hknown with rfl | rfl | rfl | rfl
    · obtain ⟨rfl, rfl⟩ := Prod.mk.inj (Except.ok.inj hrest)
      exact .inr ⟨data, bytes, rfl, hdata.1 rfl, hframe, rfl⟩
    · obtain ⟨⟨⟩, rest', hterminal, hdone⟩ := takes_bind_eq_ok.1 hrest
      obtain ⟨rfl, rfl, hstatus⟩ := terminal_eq_ok.1 hterminal
      obtain ⟨rfl, rfl⟩ := Prod.mk.inj (Except.ok.inj hdone)
      obtain rfl : data = [] := not_not.1 (mt hdata.2 (by decide))
      exact .inl ⟨rfl, by rwa [List.append_nil], rfl, hstatus⟩
    · cases hrest
    · cases hrest
  · rintro (⟨rfl, hframe, rfl, hstatus⟩ | ⟨data, bytes, rfl, hne, hframe, rfl⟩)
    · exact takes_bind_eq_ok.2 ⟨(kindEnd, []), [], nextFrame_eq_ok.2
        ⟨by decide, by decide, s, hframe, (List.append_nil s).symm⟩,
        takes_bind_eq_ok.2 ⟨(), [], terminal_eq_ok.2 ⟨rfl, rfl, hstatus⟩, rfl⟩⟩
    · exact takes_bind_eq_ok.2 ⟨(kindData, data), rest, nextFrame_eq_ok.2
        ⟨by decide, by simp [hne], bytes, hframe, rfl⟩, rfl⟩

theorem of_fetch {answer : Option Bytes} (h : (fetch child r).takes s = .ok (answer, rest)) :
    (answer = none ∧ r.pending = [] ∧ frame kindEnd [] = some s ∧ child.status = 0) ∨
    ∃ data payloads sent, answer = some data ∧ data ≠ [] ∧ Carries payloads sent ∧ s = sent ++ rest ∧
      data = r.pending ++ payloads.flatten := by
  unfold fetch at h
  split at h
  · next hpending =>
    obtain ⟨rfl, rfl⟩ := Prod.mk.inj (Except.ok.inj h)
    exact .inr ⟨_, [], [], rfl, hpending, .nil, rfl, (List.append_nil _).symm⟩
  · next hpending =>
    rw [not_not] at hpending
    rcases nextPayload_eq_ok.1 h with ⟨rfl, hframe, -, hstatus⟩ | ⟨data, bytes, rfl, hne, hframe, rfl⟩
    · exact .inl ⟨rfl, hpending, hframe, hstatus⟩
    · have hcarries := Carries.cons hne hframe .nil
      rw [List.append_nil] at hcarries
      exact .inr ⟨data, [data], bytes, rfl, hne, hcarries, rfl, by simp [hpending]⟩

theorem take_ne_nil {data : Bytes} (hpos : 0 < maximum) (hne : data ≠ []) : data.take maximum.toNat ≠ [] := by
  rw [ne_eq, List.take_eq_nil_iff]
  rintro (hzero | hnil)
  · omega
  · exact hne hnil

theorem of_readBounded {value : Bytes} (h : (readBounded child maximum r).takes s = .ok ((value, r'), rest))
    (hr : r.ended = false) :
    (value = [] → r.pending = [] ∧ frame kindEnd [] = some s ∧ child.status = 0) ∧
    (value ≠ [] → r'.ended = false ∧ ∃ payloads sent, Carries payloads sent ∧ s = sent ++ rest ∧
      value ++ r'.pending = r.pending ++ payloads.flatten) := by
  unfold readBounded at h
  split at h
  · cases h
  next hvalid =>
  rw [Script.takes_check, hr, if_neg Bool.false_ne_true, Script.takes_check] at h
  obtain ⟨answer, mid, hfetch, hanswer⟩ := takes_bind_eq_ok.1 h
  rcases of_fetch hfetch with ⟨rfl, hend⟩ | ⟨data, payloads, sent, rfl, hne, hsent, rfl, hdata⟩
  · obtain ⟨hout, rfl⟩ := Prod.mk.inj (Except.ok.inj hanswer)
    obtain ⟨rfl, rfl⟩ := Prod.mk.inj hout
    exact ⟨fun _ => hend, fun hne => absurd rfl hne⟩
  · obtain ⟨hout, rfl⟩ := Prod.mk.inj (Except.ok.inj hanswer)
    obtain ⟨rfl, rfl⟩ := Prod.mk.inj hout
    refine ⟨fun hnil => ?_, fun _ => ⟨rfl, payloads, sent, hsent, rfl, ?_⟩⟩
    · exact absurd hnil (take_ne_nil (not_not.1 hvalid).1 hne)
    · rw [List.take_append_drop, hdata]

theorem of_session {ended : Bool} (h : (session child maxima r).takes s = .ok ((out, ended), rest))
    (hr : r.ended = false) : ∃ payloads sent tail, Carries payloads sent ∧ s = sent ++ tail ∧
      out <+: r.pending ++ payloads.flatten ∧ (ended = false → maxima.length ≤ out.length) ∧
      (ended = true → out = r.pending ++ payloads.flatten ∧ frame kindEnd [] = some tail ∧
        child.status = 0) := by
  induction maxima generalizing r s out with
  | nil =>
    obtain ⟨hout, rfl⟩ := Prod.mk.inj (Except.ok.inj h)
    obtain ⟨rfl, rfl⟩ := Prod.mk.inj hout
    exact ⟨[], [], s, .nil, rfl, List.nil_prefix, fun _ => le_rfl, nofun⟩
  | cons maximum maxima ih =>
    obtain ⟨⟨value, r'⟩, mid, hread, hrest⟩ := takes_bind_eq_ok.1 h
    obtain ⟨hnil, hvalue⟩ := of_readBounded hread hr
    dsimp only at hrest
    split at hrest
    · next hempty =>
      obtain ⟨hout, rfl⟩ := Prod.mk.inj (Except.ok.inj hrest)
      obtain ⟨rfl, rfl⟩ := Prod.mk.inj hout
      obtain ⟨hpending, hend⟩ := hnil hempty
      exact ⟨[], [], s, .nil, rfl, List.nil_prefix, nofun, fun _ => ⟨by rw [hpending]; rfl, hend⟩⟩
    · next hne =>
      obtain ⟨hr', payloads, sent, hsent, rfl, hpending⟩ := hvalue hne
      obtain ⟨b, rest', hsession, hdone⟩ := takes_bind_eq_ok.1 hrest
      obtain ⟨hout, rfl⟩ := Prod.mk.inj (Except.ok.inj hdone)
      obtain ⟨rfl, rfl⟩ := Prod.mk.inj hout
      obtain ⟨payloads', sent', tail, hsent', rfl, hfirst, hcount, hend⟩ := ih hsession hr'
      have hflat : r.pending ++ (payloads ++ payloads').flatten =
          value ++ (r'.pending ++ payloads'.flatten) := by
        rw [List.flatten_append, ← List.append_assoc, ← hpending, List.append_assoc]
      refine ⟨payloads ++ payloads', sent ++ sent', tail, hsent.append hsent',
        (List.append_assoc ..).symm, ?_, fun hmore => ?_, fun hdone => ?_⟩
      · rw [hflat]
        exact (List.prefix_append_right_inj value).2 hfirst
      · have hpos := List.length_pos_of_ne_nil hne
        have hle := hcount hmore
        rw [List.length_cons, List.length_append]
        omega
      · obtain ⟨hout, htail⟩ := hend hdone
        exact ⟨by rw [hflat, hout], htail⟩

theorem fetch_whole {payloads : List Bytes} {sent ending : Bytes} (hsent : Carries payloads sent)
    (hending : frame kindEnd [] = some ending) (hstatus : child.status = 0) :
    (r.pending ++ payloads.flatten = [] ∧ (fetch child r).takes (sent ++ ending) = .ok (none, [])) ∨
    ∃ data payloads' sent', data ≠ [] ∧ Carries payloads' sent' ∧
      (fetch child r).takes (sent ++ ending) = .ok (some data, sent' ++ ending) ∧
      r.pending ++ payloads.flatten = data ++ payloads'.flatten := by
  unfold fetch
  by_cases hpending : r.pending = []
  · rw [if_neg (not_not.2 hpending), hpending]
    cases hsent with
    | nil => exact .inl ⟨rfl, nextPayload_eq_ok.2 (.inl ⟨rfl, hending, rfl, hstatus⟩)⟩
    | cons hne hframe hrest =>
      rw [List.append_assoc]
      exact .inr ⟨_, _, _, hne, hrest, nextPayload_eq_ok.2 (.inr ⟨_, _, rfl, hne, hframe, rfl⟩), rfl⟩
  · rw [if_pos hpending]
    exact .inr ⟨_, payloads, sent, hpending, hsent, rfl, rfl⟩

theorem session_whole {payloads : List Bytes} {sent ending : Bytes} (hsent : Carries payloads sent)
    (hending : frame kindEnd [] = some ending) (hstatus : child.status = 0) (hr : r.ended = false)
    (hvalid : ∀ m ∈ maxima, 0 < m ∧ m ≤ maxChunk)
    (hlong : (r.pending ++ payloads.flatten).length < maxima.length) :
    (session child maxima r).takes (sent ++ ending) = .ok ((r.pending ++ payloads.flatten, true), []) := by
  induction maxima generalizing r payloads sent with
  | nil => exact absurd hlong (Nat.not_lt_zero _)
  | cons maximum maxima ih =>
    obtain ⟨hmaximum, hmaxima⟩ := List.forall_mem_cons.1 hvalid
    rw [session, Script.takes_bind, readBounded, if_neg (not_not.2 hmaximum), hr]
    have hwhole := @fetch_whole child r payloads _ _ hsent hending hstatus
    rcases hwhole with ⟨hnil, hfetch⟩ | ⟨data, payloads', sent', hne, hsent', hfetch, hdata⟩
    · simp [hfetch, hnil]
    · have hpos := List.length_pos_of_ne_nil hne
      have hnext := ih (r := { r with pending := data.drop maximum.toNat }) hsent' hr hmaxima (by
        simp only [hdata, List.length_append, List.length_cons, List.length_drop] at hlong ⊢
        omega)
      rw [hr] at hnext
      simp [hfetch, take_ne_nil hmaximum.1 hne, hnext, hdata, ← List.append_assoc]

theorem Carries.length_le {payloads : List Bytes} (h : Carries payloads s) :
    payloads.flatten.length ≤ s.length := by
  induction h with
  | nil => exact le_rfl
  | cons _ hframe _ ih =>
    obtain ⟨-, size, -, rfl⟩ := frame_eq_some.1 hframe
    simp only [List.flatten_cons, List.length_append, List.length_cons]
    omega

theorem takes_sound {ended : Bool} (h : (session child maxima {}).takes s = .ok ((out, ended), rest)) :
    ∃ payloads sent tail, Carries payloads sent ∧ s = sent ++ tail ∧ out <+: payloads.flatten ∧
      (ended = true → Whole s out ∧ child.status = 0) ∧ (ended = false → maxima.length ≤ s.length) := by
  obtain ⟨payloads, sent, tail, hsent, rfl, hfirst, hcount, hend⟩ := of_session h rfl
  refine ⟨payloads, sent, tail, hsent, rfl, hfirst, fun h => ?_, fun h => (hcount h).trans ?_⟩
  · obtain ⟨hout, htail, hstatus⟩ := hend h
    exact ⟨⟨payloads, sent, tail, hsent, htail, rfl, hout⟩, hstatus⟩
  · have hle := hfirst.length_le.trans hsent.length_le
    rw [List.length_append]
    omega

section Run

variable {net : Network Exn}

theorem reads_sound {ended : Bool}
    (h : ((session child maxima {}).reads net ⟨s, 0⟩).map (·.1) = .ok (out, ended)) :
    ∃ payloads sent tail, Carries payloads sent ∧ s = sent ++ tail ∧ out <+: payloads.flatten ∧
      (ended = true → Whole s out ∧ child.status = 0) := by
  obtain ⟨rest, htakes⟩ := Script.takes_of_reads h
  obtain ⟨payloads, sent, tail, hsent, hs, hfirst, hend, -⟩ := takes_sound htakes
  exact ⟨payloads, sent, tail, hsent, hs, hfirst, hend⟩

theorem reads_complete (hnet : net.Faultless) (hvalid : ∀ m ∈ maxima, 0 < m ∧ m ≤ maxChunk)
    (hlong : s.length < maxima.length) :
    (∃ out, Whole s out ∧ child.status = 0 ∧
      ((session child maxima {}).reads net ⟨s, 0⟩).map (·.1) = .ok (out, true)) ∨
    (¬∃ out, Whole s out ∧ child.status = 0) ∧
      ∃ e, ((session child maxima {}).reads net ⟨s, 0⟩).map (·.1) = .error e := by
  rw [Script.reads_of_faultless _ hnet s]
  by_cases hwhole : ∃ out, Whole s out ∧ child.status = 0
  · obtain ⟨_, ⟨payloads, sent, ending, hsent, hending, rfl, rfl⟩, hstatus⟩ := hwhole
    refine .inl ⟨_, ⟨payloads, sent, ending, hsent, hending, rfl, rfl⟩, hstatus, ?_⟩
    rw [session_whole hsent hending hstatus rfl hvalid]
    · rfl
    · exact (hsent.length_le.trans (List.length_append ▸ Nat.le_add_right _ _)).trans_lt hlong
  · refine .inr ⟨hwhole, ?_⟩
    cases h : (session child maxima {}).takes s with
    | error e => exact ⟨e, rfl⟩
    | ok r =>
      obtain ⟨-, -, -, -, -, -, hend, hmore⟩ := takes_sound h
      cases hended : r.1.2 with
      | true => exact absurd ⟨_, hend hended⟩ hwhole
      | false => exact absurd (hmore hended) (not_le.2 hlong)

end Run

/-- In any pieces, a session returns what the data frames of a stream carry, and comes to its end exactly
where these frames and the end frame are the whole stream and the child has exited well. -/
theorem read_bounded_spec (child : Child) (maxima : List Int) (net : Network Exn) (s : Bytes) :
    let run := ((session child maxima {}).reads net ⟨s, 0⟩).map (·.1)
    (∀ out ended, run = .ok (out, ended) → ∃ payloads sent tail, Carries payloads sent ∧ s = sent ++ tail ∧
      out <+: payloads.flatten ∧ (ended = true → Whole s out ∧ child.status = 0)) ∧
    (net.Faultless → (∀ m ∈ maxima, 0 < m ∧ m ≤ maxChunk) → s.length < maxima.length →
      (∃ out, Whole s out ∧ child.status = 0 ∧ run = .ok (out, true)) ∨
      (¬∃ out, Whole s out ∧ child.status = 0) ∧ ∃ e, run = .error e) :=
  ⟨fun _ _ => reads_sound, reads_complete⟩

end Reader

/-! ## The worker -/

/-- What `chunks` yields of the answers of its source until one of them is empty, and what it raises. -/
def chunks (byteSize : Nat) : Nat → List (Except Exn Bytes) → List Bytes × Option Exn
  | _, [] => ([], none)
  | _, .error e :: _ => ([], some e)
  | total, .ok value :: answers =>
    if maxPayload < value.length then ([], some .invalid)
    else if value = [] then ([], none)
    else if byteSize < total + value.length then ([], some .invalid)
    else
      let (values, e) := chunks byteSize (total + value.length) answers
      (value :: values, e)

def errorKind : Exn → UInt8
  | .snapshot code =>
    if "CLEANUP_UNCERTAIN".toList.isSuffixOf code.toList then kindUncertain else kindFailed
  | _ => kindFailed

def lastKind (e : Option Exn) : UInt8 := (e.map errorKind).getD kindEnd

/-- `_worker`: what it writes and its exit code. It sends what `chunks` yields, closes its source, and sends
the end frame; or it stops after some of its bytes. -/
def worker (byteSize : Nat) (answers : List (Except Exn Bytes)) (close : Option Exn) (stop : Option (Nat × Int)) :
    Bytes × Int :=
  let (values, e) := chunks byteSize 0 answers
  let kind := lastKind (close <|> e)
  let written := (values.filterMap (frame kindData)).flatten ++ (frame kind []).getD []
  match stop with
  | none => (written, if kind = kindEnd then 0 else 1)
  | some (count, status) => (written.take count, status)

theorem carries_chunks (byteSize : Nat) (answers : List (Except Exn Bytes)) (total : Nat) :
    Carries (chunks byteSize total answers).1
      ((chunks byteSize total answers).1.filterMap (frame kindData)).flatten := by
  induction answers generalizing total with
  | nil => exact .nil
  | cons answer answers ih =>
    cases answer with
    | error e => exact .nil
    | ok value =>
      rw [chunks]
      split
      · exact .nil
      split
      · exact .nil
      split
      · exact .nil
      · next hle hne _ =>
        obtain ⟨bytes, hframe⟩ := exists_frame kindData (not_lt.1 hle)
        rw [List.filterMap_cons, hframe, List.flatten_cons]
        exact .cons hne hframe (ih _)

theorem lastKind_ne (e : Option Exn) : lastKind e ≠ kindData ∧ (lastKind e = kindEnd → e = none) := by
  cases e with
  | none => exact ⟨by decide, fun _ => rfl⟩
  | some e =>
    have hkind : errorKind e = kindUncertain ∨ errorKind e = kindFailed := by
      cases e <;> simp only [errorKind, or_true]
      split <;> simp
    have hlast : lastKind (some e) = errorKind e := rfl
    rw [hlast]
    rcases hkind with h | h <;> rw [h] <;> exact ⟨by decide, fun h => absurd h (by decide)⟩

/-- What the reader returns of a worker, that may stop at any byte, is what the source has answered so far,
and its session comes to its end only where nothing was raised and all of it has come. -/
theorem worker_read (rounds byteSize : Nat) (answers : List (Except Exn Bytes)) (close : Option Exn)
    (stop : Option (Nat × Int)) (maxima : List Int) (net : Network Exn) :
    let sent := worker byteSize answers close stop
    let run := ((session ⟨rounds, sent.2⟩ maxima {}).reads net ⟨sent.1, 0⟩).map (·.1)
    let (values, e) := chunks byteSize 0 answers
    (∀ out ended, run = .ok (out, ended) → out <+: values.flatten ∧
      (ended = true → out = values.flatten ∧ e = none ∧ close = none)) ∧
    (net.Faultless → (∀ m ∈ maxima, 0 < m ∧ m ≤ maxChunk) → sent.1.length < maxima.length →
      e = none → close = none → stop = none → run = .ok (values.flatten, true)) := by
  intro sent run
  have hvalues := carries_chunks byteSize answers 0
  cases hchunks : chunks byteSize 0 answers with
  | mk values e =>
  rw [hchunks] at hvalues
  obtain ⟨hkind, hlast⟩ := lastKind_ne (close <|> e)
  have hempty : ([] : Bytes).length ≤ maxPayload := Nat.zero_le _
  obtain ⟨ending, hending⟩ := exists_frame (lastKind (close <|> e)) hempty
  have hsent : ∃ t, sent.1 ++ t = (values.filterMap (frame kindData)).flatten ++ ending := by
    simp only [sent, worker, hchunks, hending, Option.getD_some]
    cases stop with
    | none => exact ⟨[], List.append_nil _⟩
    | some cut => exact ⟨_, List.take_append_drop cut.1 _⟩
  obtain ⟨t, ht⟩ := hsent
  refine ⟨fun out ended h => ?_, fun hnet hvalid hlong he hclose hstop => ?_⟩
  · obtain ⟨payloads, bytes, tail, hbytes, hs, hfirst, hend⟩ := reads_sound h
    refine ⟨hfirst.trans ?_, fun h => ?_⟩
    · rw [hs, List.append_assoc, ← List.append_nil ending] at ht
      obtain ⟨rest, -, rfl, -, -⟩ := hbytes.split hvalues hending hkind ht
      rw [List.flatten_append]
      exact List.prefix_append _ _
    · obtain ⟨hend, -, hout⟩ := (hend h).1.of_front hvalues hending hkind ht
      exact ⟨hout, ((Option.orElse_eq_none _ _).1 (hlast hend)).symm⟩
  · subst he hclose hstop
    have hwhole : Whole sent.1 values.flatten := by
      refine ⟨values, _, ending, hvalues, hending, ?_, rfl⟩
      simp only [sent, worker, hchunks, hending, Option.getD_some]
    have hstatus : sent.2 = 0 := by simp [sent, worker, hchunks, lastKind]
    have hcomplete := @reads_complete ⟨rounds, sent.2⟩ _ _ _ hnet hvalid hlong
    rcases hcomplete with ⟨out, hout, -, hrun⟩ | ⟨hnone, -⟩
    · rw [(hout.of_front hvalues hending hkind ht).2.2] at hrun
      exact hrun
    · exact absurd ⟨_, hwhole, hstatus⟩ hnone

end DaonUser.Snapshot
