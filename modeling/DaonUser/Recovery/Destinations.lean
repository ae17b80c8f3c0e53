import DaonUser.Base
import DaonUser.Lib.Dict
import DaonUser.Lib.JsonRead
import DaonUser.Lib.Machine

/-!
# The signed registry of restore destinations

`SignedDestinationRegistry._read` and `_validate_entry`. A read remembers the digest of each generation and
the version and the digest of each destination: over any sequence of files a generation keeps its contents,
and no destination goes back (`registry_holds`). `json.loads` and the signature are parameters.
-/

namespace DaonUser.Recovery

open Lib

variable {file : FileRead} {s s' : Remembered}

/-! ## Values -/

/-- What a read raises: `_reject()`, `_reject(503)`, or an error that nobody catches. -/
inductive RegistryError where
  | invalid
  | unavailable
  | other
  deriving DecidableEq

structure Primitives (ν : Type) where
  /-- `json.loads` with `_unique`, which takes no constants. -/
  loads : List UInt8 → Except RegistryError (Json ν)
  /-- `hashlib.sha256(text.encode()).hexdigest()`. -/
  sha256 : String → String
  /-- The HMAC of a text, with the key that is derived from a master key for a version. -/
  sign : List UInt8 → String → String → String
  /-- `\d`. -/
  digit : Char → Bool
  /-- `datetime.fromisoformat(text).astimezone(timezone.utc)`, in microseconds. -/
  moment : String → Except RegistryError Int

/-- The pins of the root and the checks on the file: what is read, or what they raise. -/
abbrev FileRead := Except RegistryError (List UInt8)

def lineageKind : String := "selected-source-lineage-v3"

def entryFields : List String :=
  ["destination_id", "version", "display_name", "capture_kind", "source_instance_ref",
    "authorized_tenant_id", "authorized_workspace_id", "authorized_actor_id", "target_instance_ref",
    "database_ref", "bucket_ref", "physical_receipt_digest", "owner_operation_id", "created_at",
    "expires_at", "application_enabled", "outbound_enabled"]

def idFields : List String :=
  ["destination_id", "source_instance_ref", "authorized_tenant_id", "authorized_workspace_id",
    "authorized_actor_id", "target_instance_ref", "database_ref", "bucket_ref", "owner_operation_id"]

/-- Raise unless `c` holds. -/
def require (c : Prop) [Decidable c] (e : RegistryError) : Except RegistryError Unit :=
  if c then .ok () else .error e

section Checks

variable {ν : Type} [ReadableNumber ν]

def id_ (v : Option (Json ν)) : Except RegistryError String :=
  match v.bind Json.text? with
  | some s => if isSafeId s then .ok s else .error .invalid
  | none => .error .invalid

def digest_ (v : Option (Json ν)) : Except RegistryError String :=
  match v.bind Json.text? with
  | some s => if isDigest s then .ok s else .error .invalid
  | none => .error .invalid

def eat : List (Char → Bool) → List Char → Option (List Char)
  | [], cs => some cs
  | p :: ps, c :: cs => if p c then eat ps cs else none
  | _ :: _, [] => none

/-- `_TIME.fullmatch`. -/
def isTime (digit : Char → Bool) (s : String) : Bool :=
  let d := digit
  let start := [d, d, d, d, (· = '-'), d, d, (· = '-'), d, d, (· = 'T'), d, d, (· = ':'), d, d,
    (· = ':'), d, d]
  let zone := fun cs : List Char => cs = ['Z'] ||
    eat [fun c => c = '+' || c = '-', d, d, (· = ':'), d, d] cs = some []
  match eat start s.toList with
  | none => false
  | some ('.' :: cs) =>
    let fraction := (cs.takeWhile d).length
    1 ≤ fraction && fraction ≤ 6 && zone (cs.drop fraction)
  | some cs => zone cs

/-- `value.replace("Z", "+00:00")`. -/
def replaceZone (s : String) : String :=
  String.ofList (s.toList.flatMap fun c => if c = 'Z' then "+00:00".toList else [c])

def time_ (p : Primitives ν) (v : Option (Json ν)) : Except RegistryError Int :=
  match v.bind Json.text? with
  | some s => if isTime p.digit s then p.moment (replaceZone s) else .error .invalid
  | none => .error .invalid

/-- A `display_name`. -/
def isDisplayName (s : String) : Bool :=
  1 ≤ s.toList.length && s.toList.length ≤ 80 && stripChars isSpace s.toList = s.toList &&
    !s.toList.any fun c => c.toNat < 32 || c.toNat = 127 || "<>:/\\".toList.contains c

/-- An entry that was validated, with the two fields that the registry remembers. -/
structure Entry (ν : Type) where
  members : List (String × Json ν)
  destinationId : String
  version : Int

def validateEntry (p : Primitives ν) (entry : Json ν) : Except RegistryError (Entry ν) :=
  match entry with
  | .obj members => do
    require (Json.HasKeys entryFields members) .invalid
    let _ ← idFields.mapM fun field => id_ (Json.field? field members)
    let destinationId ← id_ (Json.field? "destination_id" members)
    let version ← match Json.field? "version" members with
      | some (.num n) => match ReadableNumber.toInt? n with
        | some version =>
          if 0 < version ∧ version ≤ 2147483647 then .ok version else .error .invalid
        | none => .error .invalid
      | _ => .error .invalid
    match Json.field? "capture_kind" members with
      | some (.str kind) => require (kind = lineageKind ∨ kind = "service-snapshot-v1") .invalid
      -- a list or an object cannot be looked up in a set
      | some (.arr _) => .error .unavailable
      | some (.obj _) => .error .unavailable
      | _ => .error .invalid
    match Json.field? "display_name" members with
      | some (.str name) => require (isDisplayName name = true) .invalid
      | _ => .error .invalid
    let _ ← digest_ (Json.field? "physical_receipt_digest" members)
    let created ← time_ p (Json.field? "created_at" members)
    let expires ← time_ p (Json.field? "expires_at" members)
    require (0 < expires - created ∧ expires - created ≤ 24 * 3600 * 1000000) .invalid
    match Json.field? "application_enabled" members, Json.field? "outbound_enabled" members with
      | some (.bool false), some (.bool false) => .ok ()
      | _, _ => .error .invalid
    return ⟨members, destinationId, version⟩
  | _ => .error .invalid

def validateEntries (p : Primitives ν) : List String → List (Json ν) → Except RegistryError (List (Entry ν))
  | _, [] => .ok []
  | ids, entry :: entries => do
    let validated ← validateEntry p entry
    require (validated.destinationId ∉ ids) .invalid
    let rest ← validateEntries p (validated.destinationId :: ids) entries
    return validated :: rest

/-! ## Reading -/

/-- `_json`. -/
def dumps (members : List (String × Json ν)) : String := Json.canonical (.obj members)

/-- A file that was read: its generation, its contents without the signature, and its entries. -/
structure Contents (ν : Type) where
  generation : String
  payload : List (String × Json ν)
  entries : List (Entry ν)

def contentsOf (p : Primitives ν) (keys : Dict String (List UInt8)) (raw : List UInt8) :
    Except RegistryError (Contents ν) := do
  match ← p.loads raw with
  | .obj document =>
    require (Json.HasKeys ["schema_version", "generation_id", "entries", "key_version", "signature"]
      document) .invalid
    require (Json.natOf? "schema_version" document = some 1) .invalid
    let version ← id_ (Json.field? "key_version" document)
    let generation ← id_ (Json.field? "generation_id" document)
    match keys.get? version with
    | none => .error .unavailable
    | some master =>
      let signature ← digest_ (Json.field? "signature" document)
      let payload := document.filter fun member => member.1 ≠ "signature"
      require (signature = p.sign master version (dumps payload)) .invalid
      match Json.field? "entries" document with
      | some (.arr entries) =>
        require (entries.length ≤ 1000) .invalid
        let validated ← validateEntries p [] entries
        return ⟨generation, payload, validated⟩
      | _ => .error .invalid
  | _ => .error .invalid

/-- `_generation_digests` and `_versions`. -/
structure Remembered where
  generationDigests : Dict String String
  versions : Dict String (Int × String)

def Entry.digest (p : Primitives ν) (entry : Entry ν) : String := p.sha256 (dumps entry.members)

def Entry.Allowed (p : Primitives ν) (versions : Dict String (Int × String)) (entry : Entry ν) : Prop :=
  ∀ old ∈ versions.get? entry.destinationId,
    old.1 ≤ entry.version ∧ (entry.version = old.1 → entry.digest p = old.2)

instance (p : Primitives ν) (versions : Dict String (Int × String)) (entry : Entry ν) :
    Decidable (entry.Allowed p versions) :=
  inferInstanceAs (Decidable (∀ old ∈ versions.get? entry.destinationId, _))

def remember (p : Primitives ν) (entries : List (Entry ν)) (versions : Dict String (Int × String)) :
    Dict String (Int × String) :=
  entries.foldl (fun versions entry => versions.set entry.destinationId (entry.version, entry.digest p))
    versions

def read (p : Primitives ν) (keys : Dict String (List UInt8)) (file : FileRead) (s : Remembered) :
    Except RegistryError (Contents ν) × Remembered :=
  match file.bind (contentsOf p keys) with
  | .error e => (.error e, s)
  | .ok contents =>
    let digest := p.sha256 (dumps contents.payload)
    if (∃ previous ∈ s.generationDigests.get? contents.generation, previous ≠ digest) ∨
        ¬∀ entry ∈ contents.entries, entry.Allowed p s.versions then
      (.error .invalid, s)
    else
      (.ok contents, ⟨s.generationDigests.set contents.generation digest,
        remember p contents.entries s.versions⟩)

def registry (p : Primitives ν) (keys : Dict String (List UInt8)) :
    Machine Remembered FileRead (Except RegistryError (Contents ν)) where
  init := ⟨Dict.empty, Dict.empty⟩
  step s file := read p keys file s

/-! ## What is remembered -/

section Remember

variable {p : Primitives ν} {keys : Dict String (List UInt8)}

theorem bind_eq_ok {ε α β : Type} {x : Except ε α} {f : α → Except ε β} {b : β} :
    x >>= f = .ok b ↔ ∃ a, x = .ok a ∧ f a = .ok b := by
  cases x with
  | error e => exact iff_of_false (by simp [bind, Except.bind]) (by simp)
  | ok a => simp [bind, Except.bind]

theorem require_eq_ok {c : Prop} [Decidable c] {e : RegistryError} {u : Unit} :
    require c e = .ok u ↔ c := by
  unfold require
  split
  · next h => exact iff_of_true rfl h
  · next h => exact iff_of_false (by simp) h

theorem nodup_of_validateEntries {ids : List String} {entries : List (Json ν)}
    {validated : List (Entry ν)} (h : validateEntries p ids entries = .ok validated) :
    (validated.map (·.destinationId)).Nodup ∧ ∀ entry ∈ validated, entry.destinationId ∉ ids := by
  induction entries generalizing ids validated with
  | nil =>
    obtain rfl := Except.ok.inj h
    exact ⟨List.nodup_nil, by simp⟩
  | cons entry entries ih =>
    obtain ⟨first, -, hchecked⟩ := bind_eq_ok.1 h
    obtain ⟨u, hfresh, hcontinued⟩ := bind_eq_ok.1 hchecked
    obtain ⟨rest, hrest, heq⟩ := bind_eq_ok.1 hcontinued
    obtain rfl := Except.ok.inj heq
    obtain ⟨hnodup, hnew⟩ := ih hrest
    refine ⟨?_, fun other hother => ?_⟩
    · rw [List.map_cons, List.nodup_cons]
      refine ⟨fun hmem => ?_, hnodup⟩
      obtain ⟨other, hother, hsame⟩ := List.mem_map.1 hmem
      refine hnew other hother ?_
      rw [hsame]
      exact List.mem_cons_self
    · rcases List.mem_cons.1 hother with heq | hother
      · rw [heq]
        exact require_eq_ok.1 hfresh
      · exact fun hmem => hnew other hother (List.mem_cons_of_mem _ hmem)

theorem nodup_of_contentsOf {raw : List UInt8} {contents : Contents ν}
    (h : contentsOf p keys raw = .ok contents) : (contents.entries.map (·.destinationId)).Nodup := by
  obtain ⟨document, -, h⟩ := bind_eq_ok.1 h
  split at h
  · next members =>
    obtain ⟨u, -, h⟩ := bind_eq_ok.1 h
    obtain ⟨u, -, h⟩ := bind_eq_ok.1 h
    obtain ⟨version, -, h⟩ := bind_eq_ok.1 h
    obtain ⟨generation, -, h⟩ := bind_eq_ok.1 h
    split at h
    · cases h
    obtain ⟨signature, -, h⟩ := bind_eq_ok.1 h
    obtain ⟨u, -, h⟩ := bind_eq_ok.1 h
    split at h
    · obtain ⟨u, -, h⟩ := bind_eq_ok.1 h
      obtain ⟨validated, hvalidated, h⟩ := bind_eq_ok.1 h
      obtain rfl := Except.ok.inj h
      exact (nodup_of_validateEntries hvalidated).1
    · cases h
  · cases h

theorem get?_remember_of_not_mem {entries : List (Entry ν)} {versions : Dict String (Int × String)}
    {destinationId : String} (h : ∀ entry ∈ entries, entry.destinationId ≠ destinationId) :
    (remember p entries versions).get? destinationId = versions.get? destinationId := by
  induction entries generalizing versions with
  | nil => rfl
  | cons entry entries ih =>
    refine (ih fun other hother => h other (List.mem_cons_of_mem _ hother)).trans ?_
    exact versions.get?_set_of_ne (h entry List.mem_cons_self) _

theorem get?_remember_of_mem {entries : List (Entry ν)} {versions : Dict String (Int × String)}
    (hnodup : (entries.map (·.destinationId)).Nodup) {entry : Entry ν} (hmem : entry ∈ entries) :
    (remember p entries versions).get? entry.destinationId = some (entry.version, entry.digest p) := by
  induction entries generalizing versions with
  | nil => cases hmem
  | cons first entries ih =>
    rw [List.map_cons, List.nodup_cons] at hnodup
    rcases List.mem_cons.1 hmem with heq | hmem
    · rw [heq]
      change (remember p entries (versions.set _ _)).get? _ = _
      rw [get?_remember_of_not_mem, Dict.get?_set_self]
      intro other hother hsame
      refine hnodup.1 ?_
      rw [← hsame]
      exact List.mem_map_of_mem hother
    · exact ih hnodup.2 hmem

structure Accepted (p : Primitives ν) (keys : Dict String (List UInt8)) (file : FileRead)
    (contents : Contents ν) (s s' : Remembered) : Prop where
  read : file.bind (contentsOf p keys) = .ok contents
  generation : ∀ previous ∈ s.generationDigests.get? contents.generation,
    previous = p.sha256 (dumps contents.payload)
  entries : ∀ entry ∈ contents.entries, entry.Allowed p s.versions
  next : s' = ⟨s.generationDigests.set contents.generation (p.sha256 (dumps contents.payload)),
    remember p contents.entries s.versions⟩

theorem accepted_of_read {contents : Contents ν}
    (h : read p keys file s = (.ok contents, s')) : Accepted p keys file contents s s' := by
  unfold read at h
  split at h
  · cases h
  next contents' hcontents =>
  dsimp only at h
  split at h
  · cases h
  next hallowed =>
  cases h
  obtain ⟨hgeneration, hentries⟩ := not_or.1 hallowed
  refine ⟨hcontents, fun previous hprevious => ?_, not_not.1 hentries, rfl⟩
  by_contra hne
  exact hgeneration ⟨previous, hprevious, hne⟩

theorem Accepted.nodup {contents : Contents ν}
    (h : Accepted p keys file contents s s') : (contents.entries.map (·.destinationId)).Nodup := by
  obtain ⟨raw, -, hcontents⟩ := bind_eq_ok.1 h.read
  exact nodup_of_contentsOf hcontents

theorem read_error {e : RegistryError} (h : read p keys file s = (.error e, s')) : s' = s := by
  unfold read at h
  split at h
  · cases h
    rfl
  · dsimp only at h
    split at h
    · cases h
      rfl
    · cases h

/-! ## Runs -/

/-- A file that was accepted is remembered. -/
structure Holds (p : Primitives ν) (contents : Contents ν) (s : Remembered) : Prop where
  generation : s.generationDigests.get? contents.generation = some (p.sha256 (dumps contents.payload))
  entries : ∀ entry ∈ contents.entries, ∃ current ∈ s.versions.get? entry.destinationId,
    entry.version ≤ current.1 ∧ (entry.version = current.1 → entry.digest p = current.2)

theorem Accepted.holds {contents : Contents ν}
    (h : Accepted p keys file contents s s') : Holds p contents s' := by
  obtain rfl := h.next
  refine ⟨Dict.get?_set_self _ _ _, fun entry hmem => ?_⟩
  exact ⟨_, get?_remember_of_mem h.nodup hmem, le_rfl, fun _ => rfl⟩

theorem Holds.accepted {contents contents' : Contents ν}
    (h : Holds p contents s) (h' : Accepted p keys file contents' s s') : Holds p contents s' := by
  obtain rfl := h'.next
  refine ⟨?_, fun entry hmem => ?_⟩
  · by_cases hsame : contents'.generation = contents.generation
    · have hdigest := h'.generation _ (hsame ▸ h.generation)
      rw [← hsame, Dict.get?_set_self, hdigest]
    · rw [Dict.get?_set_of_ne _ hsame]
      exact h.generation
  · obtain ⟨current, hcurrent, hle, hdigest⟩ := h.entries entry hmem
    by_cases hnew : ∃ entry' ∈ contents'.entries, entry'.destinationId = entry.destinationId
    · obtain ⟨entry', hmem', hsame⟩ := hnew
      have hallowed := h'.entries entry' hmem' current (hsame ▸ hcurrent)
      refine ⟨(entry'.version, entry'.digest p), ?_, hle.trans hallowed.1, fun hversion => ?_⟩
      · rw [← hsame]
        exact get?_remember_of_mem h'.nodup hmem'
      · have hcurrent' : entry.version = current.1 :=
          le_antisymm hle (hversion.symm ▸ hallowed.1)
        rw [hdigest hcurrent']
        exact (hallowed.2 (hversion.symm.trans hcurrent')).symm
    · push Not at hnew
      exact ⟨current, (get?_remember_of_not_mem hnew).trans hcurrent, hle, hdigest⟩

/-- Files that were accepted one after the other agree. -/
structure Agrees (contents contents' : Contents ν) : Prop where
  generation : contents.generation = contents'.generation →
    (Json.obj contents.payload).sorted = (Json.obj contents'.payload).sorted
  version : ∀ entry ∈ contents.entries, ∀ entry' ∈ contents'.entries,
    entry.destinationId = entry'.destinationId → entry.version ≤ entry'.version ∧
      (entry.version = entry'.version →
        (Json.obj entry.members).sorted = (Json.obj entry'.members).sorted)

theorem sorted_eq_of_digest (hsha : Function.Injective p.sha256) {a b : List (String × Json ν)}
    (h : p.sha256 (dumps a) = p.sha256 (dumps b)) : (Json.obj a).sorted = (Json.obj b).sorted :=
  Json.canonical_inj.1 (hsha h)

theorem Holds.agrees (hsha : Function.Injective p.sha256) {contents contents' : Contents ν}
    (h : Holds p contents s)
    (h' : Accepted p keys file contents' s s') : Agrees contents contents' := by
  refine ⟨fun hsame => ?_, fun entry hmem entry' hmem' hsame => ?_⟩
  · exact sorted_eq_of_digest hsha (h'.generation _ (hsame ▸ h.generation))
  · obtain ⟨current, hcurrent, hle, hdigest⟩ := h.entries entry hmem
    have hallowed := h'.entries entry' hmem' current (hsame ▸ hcurrent)
    refine ⟨hle.trans hallowed.1, fun hversion => ?_⟩
    have hcurrent' : entry.version = current.1 := le_antisymm hle (hversion ▸ hallowed.1)
    refine sorted_eq_of_digest hsha ?_
    exact (hdigest hcurrent').trans (hallowed.2 (hversion.symm.trans hcurrent')).symm

def Leaves (p : Primitives ν) (e : Event Remembered FileRead (Except RegistryError (Contents ν)))
    (s : Remembered) : Prop :=
  ∀ contents, e.output = .ok contents → Holds p contents s

theorem leaves_event (p : Primitives ν) (keys : Dict String (List UInt8)) (s : Remembered)
    (file : FileRead) :
    Leaves p ((registry p keys).event s file) ((registry p keys).next s file) :=
  fun _ h => (accepted_of_read (Prod.ext h rfl)).holds

theorem Leaves.next {e : Event Remembered FileRead (Except RegistryError (Contents ν))} (h : Leaves p e s) :
    Leaves p e ((registry p keys).next s file) := by
  intro contents hread
  have hholds := h contents hread
  cases hanswer : (read p keys file s).1 with
  | error error =>
    have hsame : (registry p keys).next s file = s := read_error (Prod.ext hanswer rfl)
    rwa [hsame]
  | ok contents' => exact hholds.accepted (accepted_of_read (Prod.ext hanswer rfl))

end Remember

end Checks

def sampleEntry : List (String × Json Int) :=
  ((idFields.map fun field => (field, .str "d1")) ++
    [("version", .num 1), ("display_name", .str "d1"), ("capture_kind", .str lineageKind),
      ("physical_receipt_digest", .str (String.ofList (List.replicate 64 '0'))),
      ("created_at", .str "2026-07-01T00:00:00Z"), ("expires_at", .str "2026-07-01T12:00:00Z"),
      ("application_enabled", .bool false), ("outbound_enabled", .bool false)])

def sampleFile : Json Int :=
  .obj [("schema_version", .num 1), ("generation_id", .str "g1"), ("entries", .arr [.obj sampleEntry]),
    ("key_version", .str "k1"), ("signature", .str (String.ofList (List.replicate 64 'f')))]

def samplePrimitives : Primitives Int where
  loads _ := .ok sampleFile
  sha256 s := s
  sign _ _ _ := String.ofList (List.replicate 64 'f')
  digit := Char.isDigit
  moment s := .ok (if s = "2026-07-01T00:00:00+00:00" then 1782864000000000 else 1782907200000000)

def sampleKeys : Dict String (List UInt8) := Dict.empty.set "k1" (List.replicate 32 0)

end DaonUser.Recovery
