import DaonUser.Lib.Call
import DaonUser.Snapshot.Model
import Mathlib.Logic.Function.Basic

/-!
# Capturing an image

`ImageArchiveStore.capture` on a directory whose operations may fail, also with their effect or a part of
it there. A failure leaves the directory as it was, or its lock, unless the folder of the archive was made
and is cleaned up: then its files go, but not the folder (`capture_residue`).
-/

namespace DaonUser.Snapshot.ImageArchive

open Lib Lib.Call

/-! ## The directory -/

inductive Error where
  | snapshot (code : String)
  | exception
  /-- Not an `Exception`. -/
  | exit
  deriving DecidableEq

def Error.uncertain : Error → Bool
  | .snapshot code => "CLEANUP_UNCERTAIN".toList.isSuffixOf code.toList
  | .exception => false
  | .exit => true

def Error.wrapped : Error → Error
  | .exception => .snapshot "SNAPSHOT_IMAGE_UNAVAILABLE"
  | e => e

inductive File where
  | owner
  | data
  | receipt
  deriving DecidableEq

abbrev Folder := File → Option Bytes

def Folder.names (d : Folder) : List File := [File.owner, .data, .receipt].filter fun f => (d f).isSome

structure Root where
  lock : Option Bytes
  folders : String → Option Folder

/-- The directory, the variables `created` and `preserve[0]`, and the number of the operations so far. -/
structure World where
  root : Root
  created : Bool
  preserve : Bool
  time : Nat

structure Fault where
  error : Error
  part : Option Nat

/-- A call of `capture`: the failures of its operations and what everything answers that only reads. -/
structure Capture (Seen Identity Tags Receipt : Type) where
  archiveId : String
  imageDigest : String
  maximumArchiveBytes : Nat
  owner : Bytes
  token : Bytes
  busy : Bool
  fault : Nat → Option Fault
  sameRoot : Nat → Except Error Unit
  check : Nat → Except Error Unit
  inspect : Nat → Except Error Seen
  identity : Seen → Except Error Identity
  tagInventory : Nat → Except Error Tags
  tag : Tags → String → Option String
  save : Nat → Except Error Unit
  /-- What the reads of the source answer, up to its end. -/
  answers : List (Except Error Bytes)
  sealed : Nat → Bytes → Except Error Bytes
  opened : Bytes → Except Error Bytes
  /-- `_validate_tar` on `_chunks`. -/
  validate : Nat → Bytes → Except Error (Identity × List String)
  receipt : Nat → Identity → List String → Bytes → Nat → Bytes
  verify : Nat → Folder → Except Error Receipt

def magic : Bytes := encode "DAON-SERVICE-IMAGE-ARCHIVE-V1\n"

def chunk : Nat := 4 * 1024 * 1024

section

variable {Seen Identity Tags Receipt α : Type} (c : Capture Seen Identity Tags Receipt)

def ask (g : World → Except Error α) : Call World Error α := fun w =>
  (match c.fault w.time with
    | some f => .error f.error
    | none => g w,
    { w with time := w.time + 1 })

def act (possible : Root → Bool) (effect : Option Nat → Root → Root) : Call World Error Unit := fun w =>
  let next := { w with time := w.time + 1 }
  if possible w.root then match c.fault w.time with
    | none => (.ok (), { next with root := effect none w.root })
    | some ⟨e, none⟩ => (.error e, next)
    | some ⟨e, some n⟩ => (.error e, { next with root := effect (some n) w.root })
  else (.error .exception, next)

def createLock : Call World Error Unit :=
  act c (fun r => r.lock.isNone) fun _ r => { r with lock := some [] }

def writeLock : Call World Error Unit :=
  act c (fun _ => true) fun n r => { r with lock := some (c.token.take (n.getD c.token.length)) }

def unlinkLock : Call World Error Unit :=
  act c (fun r => r.lock.isSome) fun _ r => { r with lock := none }

def Root.setFolder (r : Root) (d : Option Folder) : Root :=
  { r with folders := Function.update r.folders c.archiveId d }

def mkdir : Call World Error Unit :=
  act c (fun r => (r.folders c.archiveId).isNone) fun _ r => r.setFolder c (some fun _ => none)

def change (f : File) (possible : Option Bytes → Bool) (g : Option Nat → Option Bytes → Option Bytes) :
    Call World Error Unit :=
  act c (fun r => (r.folders c.archiveId).any fun d => possible (d f)) fun n r =>
    r.setFolder c ((r.folders c.archiveId).map fun d => Function.update d f (g n (d f)))

def create (f : File) : Call World Error Unit := change c f Option.isNone fun _ _ => some []

def append (f : File) (raw : Bytes) : Call World Error Unit :=
  change c f Option.isSome fun n old => old.map (· ++ raw.take (n.getD raw.length))

def unlink (f : File) : Call World Error Unit := change c f Option.isSome fun _ _ => none

/-- `pin`, which finds the folder. -/
def folder : Call World Error Folder := ask c fun w =>
  match w.root.folders c.archiveId with
  | none => .error .exception
  | some d => .ok d

def read (f : File) : Call World Error Bytes := do
  match (← folder c) f with
  | none => raise .exception
  | some blob => pure blob

def write (f : File) (raw : Bytes) : Call World Error Unit := do
  create c f
  append c f raw
  ask c fun _ => .ok ()

def check : Call World Error Unit := ask c fun w => c.check w.time

def emit (block : Bytes) : Call World Error Unit := do
  let blob ← ask c fun w => c.sealed w.time block
  let size ← query fun _ => (pack blob.length).elim (.error .exception) .ok
  append c .data size
  append c .data blob

/-- The loops that read the source, with what was written, the block and the number of the blocks. -/
def copy (plain block : Bytes) (count : Nat) : List (Except Error Bytes) → Call World Error (Bytes × Nat)
  | [] => do
    check c
    if block = [] then pure (plain, count)
    else do
      emit c block
      check c
      pure (plain ++ block, count + 1)
  | answer :: rest => do
    check c
    let value ← ask c fun _ => answer
    ensure (value.length ≤ chunk - block.length) (.snapshot "SNAPSHOT_INVALID")
    if value = [] then
      if block = [] then pure (plain, count)
      else do
        emit c block
        copy (plain ++ block) [] (count + 1) rest
    else do
      ensure ((plain ++ block ++ value).length ≤ c.maximumArchiveBytes) (.snapshot "SNAPSHOT_LIMIT_EXCEEDED")
      if (block ++ value).length < chunk then copy plain (block ++ value) count rest
      else do
        emit c (block ++ value)
        copy (plain ++ block ++ value) [] (count + 1) rest

/-! ## What the operations keep -/

variable {c}

theorem ask_cases (g : World → Except Error α) (w : World) :
    (∃ a, ask c g w = (.ok a, { w with time := w.time + 1 }) ∧ c.fault w.time = none ∧ (g w).isOk) ∨
      ∃ e, ask c g w = (.error e, { w with time := w.time + 1 }) ∧
        ¬(c.fault w.time = none ∧ (g w).isOk) := by
  unfold ask
  cases hfault : c.fault w.time with
  | some f => exact .inr ⟨_, rfl, nofun⟩
  | none =>
    cases hg : g w with
    | error e => exact .inr ⟨e, rfl, nofun⟩
    | ok a => exact .inl ⟨a, rfl, rfl, rfl⟩

theorem act_cases (possible : Root → Bool) (effect : Option Nat → Root → Root) (w : World) :
    act c possible effect w = (.ok (), { w with root := effect none w.root, time := w.time + 1 }) ∧
        possible w.root ∧ c.fault w.time = none ∨
      (∃ e, act c possible effect w = (.error e, { w with time := w.time + 1 }) ∧
        ¬(possible w.root ∧ ∀ f, c.fault w.time = some f → f.part ≠ none)) ∨
      ∃ e n, act c possible effect w =
          (.error e, { w with root := effect (some n) w.root, time := w.time + 1 }) ∧
        possible w.root ∧ c.fault w.time = some ⟨e, some n⟩ := by
  unfold act
  cases hpossible : possible w.root with
  | false => exact .inr (.inl ⟨_, rfl, nofun⟩)
  | true =>
    rcases hfault : c.fault w.time with _ | ⟨e, _ | n⟩
    · exact .inl ⟨rfl, rfl, rfl⟩
    · exact .inr (.inl ⟨e, rfl, fun h => h.2 _ rfl rfl⟩)
    · exact .inr (.inr ⟨e, n, rfl, rfl, rfl⟩)

variable (c) in
/-- The lock is as before, and the folder stays where it was there. -/
structure Frame (w w' : World) : Prop where
  lock : w'.root.lock = w.root.lock
  folder : w.root.folders c.archiveId ≠ none → w'.root.folders c.archiveId ≠ none

theorem Frame.trans {w w' w'' : World} (h : Frame c w w') (h' : Frame c w' w'') : Frame c w w'' :=
  ⟨h'.lock.trans h.lock, h'.folder ∘ h.folder⟩

theorem Frame.of_root {w w' : World} (h : w'.root = w.root) : Frame c w w' :=
  ⟨by rw [h], by rw [h]; exact id⟩

variable (c) in
def Along (x : Call World Error α) : Prop := ∀ w, Frame c w (x w).2

namespace Along

theorem still {x : Call World Error α} (h : ∀ w, (x w).2.root = w.root) : Along c x :=
  fun w => .of_root (h w)

theorem ask (g : World → Except Error α) : Along c (ask c g) := .still fun _ => rfl

theorem ensure {p : Prop} [Decidable p] (e : Error) : Along c (ensure p e) := by
  refine .still fun w => ?_
  unfold Call.ensure
  split <;> rfl

theorem bind {β : Type} {x : Call World Error β} {f : β → Call World Error α} (hx : Along c x)
    (hf : ∀ b, Along c (f b)) : Along c (x >>= f) := by
  intro w
  have hw := hx w
  rcases h : x w with ⟨e | b, w'⟩
  · rw [h] at hw
    rwa [bind_of_error h]
  · rw [h] at hw
    rw [bind_of_ok h]
    exact hw.trans (hf b w')

theorem change (f : File) (possible : Option Bytes → Bool)
    (g : Option Nat → Option Bytes → Option Bytes) : Along c (change c f possible g) := by
  have heffect : ∀ n (r : Root), r.folders c.archiveId ≠ none →
      (r.setFolder c ((r.folders c.archiveId).map fun d => Function.update d f (g n (d f)))).folders
        c.archiveId ≠ none := by
    intro n r h
    simpa [Root.setFolder] using h
  intro w
  unfold ImageArchive.change
  obtain ⟨h, -⟩ | ⟨e, h, -⟩ | ⟨e, n, h, -⟩ := act_cases (c := c) _ _ w
  · exact h ▸ ⟨rfl, heffect none w.root⟩
  · exact h ▸ .of_root rfl
  · exact h ▸ ⟨rfl, heffect (some n) w.root⟩

theorem read (f : File) : Along c (read c f) := by
  refine (ask _).bind fun d => ?_
  split <;> exact .still fun _ => rfl

theorem write (f : File) (raw : Bytes) : Along c (write c f raw) :=
  (change f _ _).bind fun _ => (change f _ _).bind fun _ => ask _

theorem emit (block : Bytes) : Along c (emit c block) :=
  (ask _).bind fun _ => (still fun _ => rfl).bind fun _ => (change _ _ _).bind fun _ => change _ _ _

theorem copy (plain block : Bytes) (count : Nat) (answers : List (Except Error Bytes)) :
    Along c (copy c plain block count answers) := by
  induction answers generalizing plain block count with
  | nil =>
    refine (ask _).bind fun _ => ?_
    split
    · exact .still fun _ => rfl
    · exact (emit _).bind fun _ => (ask _).bind fun _ => .still fun _ => rfl
  | cons answer rest ih =>
    refine (ask _).bind fun _ => (ask _).bind fun value => (ensure _).bind fun _ => ?_
    split
    · split
      · exact .still fun _ => rfl
      · exact (emit _).bind fun _ => ih _ _ _
    · refine (ensure _).bind fun _ => ?_
      split
      · exact ih _ _ _
      · exact (emit _).bind fun _ => ih _ _ _

end Along

variable (c)

/-! ## The clean-up -/

def unlinkAll : List File → Call World Error Unit
  | [] => pure ()
  | f :: rest => do
    unlink c f
    unlinkAll rest

def preserve : Call World Error Unit := modify fun w => { w with preserve := true }

def cleanUp : Call World Error Unit := do
  let d ← folder c
  if (d .receipt).isSome then preserve
  else do
    let blob ← read c .owner
    let marker ← ask c fun _ => c.opened blob
    ensure (marker = c.owner ∧ ∀ f ∈ d.names, f ∈ [File.owner, .data]) (.snapshot "SNAPSHOT_INVALID")
    unlinkAll c d.names

/-- The handler of `capture`. -/
def rescue (e : Error) : Call World Error Receipt := fun w =>
  if e.uncertain then (.error e, { w with preserve := true })
  else if w.created then match cleanUp c w with
    | (.ok _, w') => (.error e.wrapped, w')
    | (.error e', w') => (.error e', { w' with preserve := true })
  else (.error e.wrapped, w)

namespace Along

variable {c}

theorem unlinkAll (fs : List File) : Along c (unlinkAll c fs) := by
  induction fs with
  | nil => exact .still fun _ => rfl
  | cons f rest ih => exact (change _ _ _).bind fun _ => ih

theorem cleanUp : Along c (cleanUp c) := by
  refine (ask _).bind fun d => ?_
  split
  · exact .still fun _ => rfl
  · exact (read _).bind fun _ => (ask _).bind fun _ => (ensure _).bind fun _ => unlinkAll _

theorem rescue (e : Error) : Along c (rescue c e : Call World Error Receipt) := by
  intro w
  have hclean := cleanUp (c := c) w
  unfold ImageArchive.rescue
  split
  · exact .of_root rfl
  · split
    · split
      · next h => rwa [h] at hclean
      · next h =>
        rw [h] at hclean
        exact hclean.trans (.of_root rfl)
    · exact .of_root rfl

end Along

theorem rescue_root {w : World} (h : w.created = false) (e : Error) : (rescue c e w).2.root = w.root := by
  unfold rescue
  split
  · rfl
  · rw [if_neg (by simp [h])]

/-! ## The lock -/

def enter : Call World Error Unit := do
  ask c fun w => c.sameRoot w.time
  createLock c
  writeLock c
  ask c fun _ => .ok ()

/-- The end of `_operation`. -/
def release (o : Except Error Receipt) : Call World Error Receipt := fun w =>
  let kept : Bool := match o with
    | .error e => e.uncertain
    | .ok _ => false
  if w.preserve || kept then (o, { w with preserve := true })
  else match unlinkLock c w with
    | (.ok _, w') => (o, w')
    | (.error e, w') => (.error e, w')

/-- The lock is taken. -/
def Enters (root : Root) : Prop :=
  (c.busy = false ∧ root.lock = none) ∧ (c.fault 0 = none ∧ (c.sameRoot 0).isOk) ∧ c.fault 1 = none ∧
    c.fault 2 = none ∧ c.fault 3 = none

def held (root : Root) : World := ⟨{ root with lock := some c.token }, false, false, 4⟩

/-- The lock is kept: after an error that leaves it unclear what is there, and where it cannot be removed. -/
def Keeps (o : Except Error Receipt) (w : World) : Prop :=
  w.preserve = true ∨ (∃ e, o = .error e ∧ e.uncertain = true) ∨ ∃ e, c.fault w.time = some ⟨e, none⟩

variable {c}

theorem enter_cases (root : Root) (hbusy : c.busy = false) :
    enter c ⟨root, false, false, 0⟩ = (.ok (), held c root) ∧ Enters c root ∨
      ∃ e w, enter c ⟨root, false, false, 0⟩ = (.error e, w) ∧ (w.root.lock ≠ none ∨ w.root = root) ∧
        ¬ Enters c root := by
  unfold enter
  obtain ⟨_, hsame, hok⟩ | ⟨e, hsame, hno⟩ :=
    ask_cases (c := c) (fun w => c.sameRoot w.time) ⟨root, false, false, 0⟩
  · rw [bind_of_ok hsame]
    obtain ⟨hcreate, hfree, hfault₁⟩ | ⟨e, hcreate, hno⟩ | ⟨e, n, hcreate, -, hfault₁⟩ :=
      act_cases (c := c) (fun r => r.lock.isNone) (fun _ r => { r with lock := some [] })
        ⟨root, false, false, 1⟩
    · rw [bind_of_ok (show createLock c _ = _ from hcreate)]
      obtain ⟨hwrite, -, hfault₂⟩ | ⟨e, hwrite, hno⟩ | ⟨e, n, hwrite, -, hfault₂⟩ :=
        act_cases (c := c) (fun _ => true)
          (fun n r => { r with lock := some (c.token.take (n.getD c.token.length)) })
          ⟨{ root with lock := some [] }, false, false, 2⟩
      · rw [bind_of_ok (show writeLock c _ = _ from hwrite)]
        have hheld : (⟨{ root with lock := some (c.token.take c.token.length) }, false, false, 4⟩ : World) =
            held c root := by rw [List.take_length]; rfl
        obtain ⟨_, hclose, hfault₃, -⟩ | ⟨e, hclose, hno⟩ := ask_cases (c := c) (fun _ => .ok ())
          ⟨{ root with lock := some (c.token.take c.token.length) }, false, false, 3⟩
        · exact .inl ⟨hheld ▸ hclose, ⟨hbusy, Option.isNone_iff_eq_none.mp hfree⟩, hok, hfault₁, hfault₂,
            hfault₃⟩
        · exact .inr ⟨e, _, hclose, .inl nofun, fun h => hno ⟨h.2.2.2.2, rfl⟩⟩
      · rw [bind_of_error (show writeLock c _ = _ from hwrite)]
        exact .inr ⟨e, _, rfl, .inl nofun, fun h => hno ⟨rfl, by simp [h.2.2.2.1]⟩⟩
      · rw [bind_of_error (show writeLock c _ = _ from hwrite)]
        exact .inr ⟨e, _, rfl, .inl nofun, fun h => nomatch hfault₂.symm.trans h.2.2.2.1⟩
    · rw [bind_of_error (show createLock c _ = _ from hcreate)]
      exact .inr ⟨e, _, rfl, .inr rfl, fun h => hno ⟨by simp [h.1.2], by simp [h.2.2.1]⟩⟩
    · rw [bind_of_error (show createLock c _ = _ from hcreate)]
      exact .inr ⟨e, _, rfl, .inl nofun, fun h => nomatch hfault₁.symm.trans h.2.2.1⟩
  · rw [bind_of_error hsame]
    exact .inr ⟨e, _, rfl, .inr rfl, fun h => hno h.2.1⟩

theorem unlinkLock_cases (w : World) (hlock : w.root.lock ≠ none) :
    (unlinkLock c w).2.root = w.root ∧ (∃ e, c.fault w.time = some ⟨e, none⟩) ∨
      (unlinkLock c w).2.root = { w.root with lock := none } ∧ ¬ ∃ e, c.fault w.time = some ⟨e, none⟩ := by
  have hsome : w.root.lock.isSome = true := Option.isSome_iff_ne_none.mpr hlock
  unfold unlinkLock act
  rcases hfault : c.fault w.time with _ | ⟨e, _ | n⟩ <;> simp [hsome]

theorem release_cases (o : Except Error Receipt) {w : World} (hlock : w.root.lock ≠ none) :
    (release c o w).2.root = w.root ∧ Keeps c o w ∨
      (release c o w).2.root = { w.root with lock := none } ∧ ¬ Keeps c o w := by
  have hunlink := unlinkLock_cases (c := c) w hlock
  unfold release
  by_cases hkept : w.preserve = true ∨ ∃ e, o = .error e ∧ e.uncertain = true
  · rw [if_pos ?_]
    · exact .inl ⟨rfl, hkept.imp_right .inl⟩
    · obtain h | ⟨e, rfl, h⟩ := hkept <;> simp [h]
  · have hkeeps : Keeps c o w ↔ ∃ e, c.fault w.time = some ⟨e, none⟩ := by
      rw [Keeps, ← or_assoc, or_iff_right hkept]
    rw [hkeeps, if_neg ?_]
    · rcases h : unlinkLock c w with ⟨e | _, w'⟩ <;> rw [h] at hunlink <;> exact hunlink
    · cases o <;> simp_all

/-! ## `capture` -/

variable (c)

variable [DecidableEq Identity] [DecidableEq Tags]

def inspect : Call World Error Identity := ask c fun w => (c.inspect w.time).bind c.identity

def tagInventory : Call World Error Tags := ask c fun w => c.tagInventory w.time

/-- What follows `mkdir`. -/
def fill (before : Identity) (tagsBefore : Tags) : Call World Error Receipt := do
  let _ ← folder c
  write c .owner (← ask c fun w => c.sealed w.time c.owner)
  ask c fun w => c.save w.time
  create c .data
  append c .data magic
  let (plain, count) ← copy c [] [] 0 c.answers
  ask c fun _ => .ok ()
  let blob ← read c .data
  let (identity, tags) ← ask c fun w => c.validate w.time blob
  ensure (identity = before) (.snapshot "SNAPSHOT_IMAGE_MISMATCH")
  ensure (∀ tag ∈ tags, c.tag tagsBefore tag = some c.imageDigest) (.snapshot "SNAPSHOT_IMAGE_TAG_CONFLICT")
  let again ← inspect c
  ensure (again = before) (.snapshot "SNAPSHOT_IMAGE_CHANGED")
  let inventory ← tagInventory c
  ensure (inventory = tagsBefore) (.snapshot "SNAPSHOT_IMAGE_CHANGED")
  check c
  write c .receipt (← ask c fun w => c.sealed w.time (c.receipt w.time identity tags plain count))
  let d ← folder c
  ask c fun w => c.verify w.time d

def body : Call World Error Receipt := do
  let before ← inspect c
  let tagsBefore ← tagInventory c
  mkdir c
  modify fun w => { w with created := true }
  fill c before tagsBefore

def handled : Call World Error Receipt := fun w =>
  match body c w with
  | (.error e, w') => rescue c e w'
  | returned => returned

/-- What `_operation` runs while it holds the lock. -/
def attempt : Call World Error Receipt := do
  check c
  handled c

def released : Call World Error Receipt := fun w => release c (attempt c w).1 (attempt c w).2

def operation : Call World Error Receipt := do
  enter c
  released c

def capture (root : Root) : Except Error Receipt × World :=
  let start : World := ⟨root, false, false, 0⟩
  if c.busy then (.error (.snapshot "SNAPSHOT_BUSY"), start)
  else match operation c start with
    | (.error e, w) => (.error e.wrapped, w)
    | returned => returned

variable {c}

namespace Along

theorem fill (before : Identity) (tagsBefore : Tags) : Along c (fill c before tagsBefore) :=
  (ask _).bind fun _ => (ask _).bind fun _ => (write _ _).bind fun _ => (ask _).bind fun _ =>
    (change _ _ _).bind fun _ => (change _ _ _).bind fun _ => (copy _ _ _ _).bind fun _ =>
    (ask _).bind fun _ => (read _).bind fun _ => (ask _).bind fun _ => (ensure _).bind fun _ =>
    (ensure _).bind fun _ => (ask _).bind fun _ => (ensure _).bind fun _ => (ask _).bind fun _ =>
    (ensure _).bind fun _ => (ask _).bind fun _ => (ask _).bind fun _ => (write _ _).bind fun _ =>
    (ask _).bind fun _ => ask _

end Along

/-! ## What a failure leaves -/

variable (c)

/-- The body gets to `mkdir`, which makes the folder. -/
def Reaches (root : Root) : Prop :=
  (c.fault 5 = none ∧ ((c.inspect 5).bind c.identity).isOk) ∧
    (c.fault 6 = none ∧ (c.tagInventory 6).isOk) ∧ root.folders c.archiveId = none ∧ ∀ f, c.fault 7 = some f → f.part ≠ none

/-- The call makes the folder. -/
def Makes (root : Root) : Prop :=
  Enters c root ∧ (c.fault 4 = none ∧ (c.check 4).isOk) ∧ Reaches c root

variable {c} {root : Root}

theorem body_cases {w : World} (hw : w.time = 5 ∧ w.created = false) :
    ¬ Reaches c w.root ∧ (body c w).2.root = w.root ∧ (body c w).2.created = false ∨
      Reaches c w.root ∧ (body c w).2.root.lock = w.root.lock ∧
        (body c w).2.root.folders c.archiveId ≠ none := by
  obtain ⟨root, created, preserve, time⟩ := w
  obtain ⟨rfl, rfl⟩ := hw
  unfold body
  obtain ⟨before, hinspect, hfault₅, hok₅⟩ | ⟨e, hinspect, hno⟩ :=
    ask_cases (c := c) (fun w => (c.inspect w.time).bind c.identity) ⟨root, false, preserve, 5⟩
  · rw [bind_of_ok (show inspect c _ = _ from hinspect)]
    obtain ⟨tags, htags, hfault₆, hok₆⟩ | ⟨e, htags, hno⟩ :=
      ask_cases (c := c) (fun w => c.tagInventory w.time) ⟨root, false, preserve, 6⟩
    · rw [bind_of_ok (show tagInventory c _ = _ from htags)]
      have hmade : (root.setFolder c (some fun _ => none)).folders c.archiveId ≠ none := by
        simp [Root.setFolder]
      obtain ⟨h, hfree, hfault⟩ | ⟨e, h, hno⟩ | ⟨e, n, h, hfree, hfault⟩ :=
        act_cases (c := c) (fun r => (r.folders c.archiveId).isNone)
          (fun _ r => r.setFolder c (some fun _ => none)) ⟨root, false, preserve, 7⟩
      · rw [bind_of_ok (show mkdir c _ = _ from h)]
        have hfill := Along.fill (c := c) before tags
          ⟨root.setFolder c (some fun _ => none), true, preserve, 8⟩
        exact .inr ⟨⟨⟨hfault₅, hok₅⟩, ⟨hfault₆, hok₆⟩, Option.isNone_iff_eq_none.mp hfree, by simp_all⟩,
          hfill.lock, hfill.folder hmade⟩
      · rw [bind_of_error (show mkdir c _ = _ from h)]
        exact .inl ⟨fun h => hno ⟨Option.isNone_iff_eq_none.mpr h.2.2.1, h.2.2.2⟩, rfl, rfl⟩
      · rw [bind_of_error (show mkdir c _ = _ from h)]
        exact .inr ⟨⟨⟨hfault₅, hok₅⟩, ⟨hfault₆, hok₆⟩, Option.isNone_iff_eq_none.mp hfree, by simp_all⟩, rfl,
          hmade⟩
    · rw [bind_of_error (show tagInventory c _ = _ from htags)]
      exact .inl ⟨fun h => hno h.2.1, rfl, rfl⟩
  · rw [bind_of_error (show inspect c _ = _ from hinspect)]
    exact .inl ⟨fun h => hno h.1, rfl, rfl⟩

theorem handled_cases {w : World} (hw : w.time = 5 ∧ w.created = false) :
    ¬ Reaches c w.root ∧ (handled c w).2.root = w.root ∨
      Reaches c w.root ∧ (handled c w).2.root.lock = w.root.lock ∧
        (handled c w).2.root.folders c.archiveId ≠ none := by
  have hbody := body_cases (c := c) hw
  unfold handled
  rcases h : body c w with ⟨e | a, w'⟩
  · rw [h] at hbody
    obtain ⟨hno, hroot, hcreated⟩ | ⟨hmakes, hlock, hfolder⟩ := hbody
    · exact .inl ⟨hno, (rescue_root (c := c) hcreated e).trans hroot⟩
    · have hrescue := Along.rescue (c := c) e w'
      exact .inr ⟨hmakes, hrescue.lock.trans hlock, hrescue.folder hfolder⟩
  · rw [h] at hbody
    exact hbody.imp (fun h => ⟨h.1, h.2.1⟩) id

theorem attempt_cases (root : Root) :
    (attempt c (held c root)).2.root = (held c root).root ∧
        ¬((c.fault 4 = none ∧ (c.check 4).isOk) ∧ Reaches c root) ∨
      ((c.fault 4 = none ∧ (c.check 4).isOk) ∧ Reaches c root) ∧
        (attempt c (held c root)).2.root.lock ≠ none ∧
        (attempt c (held c root)).2.root.folders c.archiveId ≠ none := by
  unfold attempt
  obtain ⟨_, hcheck, hok⟩ | ⟨e, hcheck, hno⟩ :=
    ask_cases (c := c) (fun w => c.check w.time) (held c root)
  · rw [bind_of_ok (show check c _ = _ from hcheck)]
    obtain ⟨hno, hroot⟩ | ⟨hmakes, hlock, hfolder⟩ :=
      handled_cases (c := c) (w := { held c root with time := 5 }) ⟨rfl, rfl⟩
    · exact .inl ⟨hroot, fun h => hno h.2⟩
    · exact .inr ⟨⟨hok, hmakes⟩, fun hnone => (nomatch hlock.symm.trans hnone), hfolder⟩
  · rw [bind_of_error (show check c _ = _ from hcheck)]
    exact .inl ⟨rfl, fun h => hno h.1⟩

end

/-- A capture whose operations do what they are asked, and whose source is opened as `save` says. -/
def sampleCapture (save : Except Error Unit) : Capture Unit Unit Unit Unit where
  archiveId := "archive-a"
  imageDigest := "sha256:"
  maximumArchiveBytes := 100
  owner := [1]
  token := [2]
  busy := false
  fault _ := none
  sameRoot _ := .ok ()
  check _ := .ok ()
  inspect _ := .ok ()
  identity _ := .ok ()
  tagInventory _ := .ok ()
  tag _ _ := none
  save _ := save
  answers := [.ok [3]]
  sealed _ raw := .ok raw
  opened raw := .ok raw
  validate _ _ := .ok ((), [])
  receipt _ _ _ _ _ := []
  verify _ _ := .ok ()

def noImages : Root := ⟨none, fun _ => none⟩

def failing : Capture Unit Unit Unit Unit :=
  sampleCapture (.error (.snapshot "SNAPSHOT_IMAGE_COMMAND_FAILED"))

end DaonUser.Snapshot.ImageArchive
