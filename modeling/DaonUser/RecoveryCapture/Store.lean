import DaonUser.RecoveryCapture.Model
import Mathlib.Logic.Function.Basic

/-!
# Capturing, verifying and restoring

`FileCaptureStore.capture`, `verify` and `restore`. A file is read as a whole and then taken apart, which
reads the same bytes; the loop that fills a chunk is one recursion on what the source answers, and after its
last answer a source is at its end.
-/

namespace DaonUser.RecoveryCapture

open Lib
open Snapshot (Bytes encode dumps loads pack unpack number)

/-! ## Names -/

/-- `str.upper`, of a name of ASCII characters. -/
def upper (cs : List Char) : List Char := cs.map Char.toUpper

def reserved : List (List Char) :=
  ["CON".toList, "PRN".toList, "AUX".toList, "NUL".toList] ++
    ["COM".toList, "LPT".toList].flatMap fun device =>
      "123456789".toList.map fun digit => device ++ [digit]

def directoryName (scope : CaptureScope) : Result String := do
  let cs := scope.captureId.toList
  require (¬ (cs.any (":/\\".toList.contains ·) = true ∨ cs.getLast? = some '.' ∨
    upper (cs.takeWhile (· ≠ '.')) ∈ reserved)) .invalid
  return scope.captureId

structure Folder where
  owner : Option Bytes
  data : Option Bytes
  receipt : Option Bytes

abbrev Root := String → Option Folder

def captureDir (scope : CaptureScope) (root : Root) : Result Folder := do
  let name ← directoryName scope
  orRaise .invalid (root name)

/-- `_read`. -/
def readFile (file : Option Bytes) (limit : Nat) : Result Bytes := do
  let blob ← orRaise .invalid file
  require (blob.length ≤ limit) .invalid
  return blob

section Sealing

variable (ν : Type) [PythonNumber ν] (p : Primitives) (store : FileCaptureStore) (scope : CaptureScope)

def info (purpose : String) : Bytes :=
  dumps (.arr [.str "daon.recovery", number 2, .str purpose, .str store.keyReference, .str store.keyVersion,
    .obj scope.binding] : Json ν)

/-- `_cipher`. -/
def cipherKey (purpose : String) : Bytes := p.derive store.masterKey (info ν store scope purpose)

def aad (purpose : String) (detail : List (Json ν)) : Bytes :=
  dumps (.arr [.obj scope.binding, .str store.keyVersion, .str store.keyReference, .str purpose,
    .arr detail] : Json ν)

def encrypt (draws : Draws) (purpose : String) (raw : Bytes) (detail : List (Json ν)) (nonces : List Bytes) :
    Result (Bytes × List Bytes) := do
  let nonce := draws.token nonces.length
  require (nonce ∉ nonces) .invalid
  return (nonce ++ p.encrypt (cipherKey ν p store scope purpose) nonce raw (aad ν store scope purpose detail),
    nonces ++ [nonce])

def decrypt (purpose : String) (blob : Bytes) (detail : List (Json ν)) (nonces : List Bytes) :
    Result (Bytes × List Bytes) := do
  require (28 ≤ blob.length ∧ blob.take 12 ∉ nonces) .invalid
  let raw ← orRaise .invalid (p.decrypt (cipherKey ν p store scope purpose) (blob.take 12) (blob.drop 12)
    (aad ν store scope purpose detail))
  return (raw, nonces ++ [blob.take 12])

def detail (item : BackupObjectInput) (index count : Nat) : List (Json ν) :=
  [.str item.objectId, .str item.checksum, number item.byteSize, number index, number count]

end Sealing

/-! ## Writing -/

/-- `frame` of `capture`. -/
def frame (data blob : Bytes) : Result Bytes := do
  let size ← orRaise .other (pack blob.length)
  return data ++ size ++ blob

def fill (expected : Nat) : Bytes → List Bytes → Result (Bytes × List Bytes)
  | buffer, [] => if buffer.length < expected then .error .invalid else .ok (buffer, [])
  | buffer, piece :: rest =>
    if buffer.length < expected then
      if piece = [] ∨ expected - buffer.length < piece.length then .error .invalid
      else fill expected (buffer ++ piece) rest
    else .ok (buffer, piece :: rest)

structure Written where
  data : Bytes
  nonces : List Bytes

/-- An object that is written: what its source still answers, its bytes and its blobs so far. -/
structure Writing extends Written where
  answers : List Bytes
  plain : Bytes
  cipher : Bytes

/-- The arguments of `capture`, what it draws and the moment that it writes into its receipt. -/
structure CaptureCall (ν : Type) (p : Primitives) where
  scope : CaptureScope
  metadata : Json ν
  objects : List BackupObjectInput
  /-- What the reads of a source answer. -/
  source : BackupObjectInput → List Bytes
  ownerId : String
  draws : Draws
  verifiedAt : Moment p

section Capture

variable {ν : Type} [PythonNumber ν] (p : Primitives) (store : FileCaptureStore)

section Writing

variable (c : CaptureCall ν p) (item : BackupObjectInput)

def writeChunk (s : Writing) (index : Nat) : Result Writing := do
  let expected := min chunkSize (item.byteSize - s.plain.length)
  let (chunk, answers) ← fill expected [] s.answers
  let (blob, nonces) ← encrypt ν p store c.scope c.draws "object" chunk (detail ν item index item.chunks)
    s.nonces
  let data ← frame s.data blob
  return ⟨⟨data, nonces⟩, answers, s.plain ++ chunk, s.cipher ++ blob⟩

def objectRecord (cipher : Bytes) : Json ν := .obj
  [("object_id", .str item.objectId), ("plaintext_digest", .str item.checksum),
    ("byte_size", number item.byteSize), ("ciphertext_digest", .str (p.sha256 cipher)),
    ("chunks", number item.chunks)]

def writeObject (s : Written × List (Json ν)) : Result (Written × List (Json ν)) := do
  let final ← (List.range item.chunks).foldlM (writeChunk p store c item) ⟨s.1, c.source item, [], []⟩
  require ((final.answers.head?.getD []) = []) .invalid
  require (final.plain.length = item.byteSize ∧ p.sha256 final.plain = item.checksum) .invalid
  return (final.toWritten, s.2 ++ [objectRecord p item final.cipher])

end Writing

/-- The receipt that `capture` verifies against its files, before `verified_at` is added. -/
def receiptMembers (scope : CaptureScope) (raw : Bytes) (objects : List (Json ν)) (data : Bytes) :
    List (String × Json ν) :=
  scope.binding ++
    [("key_version", .str store.keyVersion), ("key_reference", .str store.keyReference),
      ("metadata_digest", .str (p.sha256 raw)), ("metadata_size", number raw.length),
      ("objects", .arr objects), ("data_digest", .str (p.sha256 data)), ("data_size", number data.length)]

end Capture

/-! ## Reading -/

/-- A file that is read: what is left, what has been read, and the nonces that were met. -/
structure Reader where
  rest : Bytes
  seen : Bytes
  nonces : List Bytes

def read (count : Nat) (r : Reader) : Result (Bytes × Reader) := do
  require (count ≤ r.rest.length) .invalid
  return (r.rest.take count, { r with rest := r.rest.drop count, seen := r.seen ++ r.rest.take count })

/-- `frame` of `_verify_data`. -/
def readFrame (limit : Nat) (r : Reader) : Result (Bytes × Reader) := do
  let (head, r) ← read 4 r
  let count := unpack head
  require (28 ≤ count ∧ count ≤ limit + 28) .invalid
  read count r

/-- `_decrypt` of a blob that was read. -/
def openBlob (ν : Type) [PythonNumber ν] (p : Primitives) (store : FileCaptureStore) (scope : CaptureScope)
    (purpose : String) (blob : Bytes) (detail : List (Json ν)) (r : Reader) : Result (Bytes × Reader) := do
  let (raw, nonces) ← decrypt ν p store scope purpose blob detail r.nonces
  return (raw, { r with nonces })

/-- What `sink` makes of a chunk. -/
abbrev Sink (σ : Type) := σ → BackupObjectInput × Nat × Bytes → Result σ

/-- An object that is read: its bytes and its blobs so far, and what `sink` has made. -/
structure Reading (σ : Type) where
  reader : Reader
  plain : Bytes
  cipher : Bytes
  out : σ

section Verify

variable {ν : Type} [PythonNumber ν] (p : Primitives) (store : FileCaptureStore) (scope : CaptureScope)

section Objects

variable {σ : Type} (sink : Sink σ) (item : BackupObjectInput)

def readChunk (s : Reading σ) (index : Nat) : Result (Reading σ) := do
  let (blob, r) ← readFrame chunkSize s.reader
  let (chunk, r) ← openBlob ν p store scope "object" blob (detail ν item index item.chunks) r
  require (chunk.length = min chunkSize (item.byteSize - s.plain.length)) .invalid
  let out ← sink s.out (item, index, chunk)
  return ⟨r, s.plain ++ chunk, s.cipher ++ blob, out⟩

def readObject (s : Reader × σ) (row : Row ν) : Result (Reader × σ) := do
  let count ← orRaise .caught (Json.field? "chunks" row)
  require (Json.nat? count = some item.chunks) .invalid
  let final ← (List.range item.chunks).foldlM (readChunk (ν := ν) p store scope sink item) ⟨s.1, [], [], s.2⟩
  require (final.plain.length = item.byteSize ∧ p.sha256 final.plain = item.checksum) .invalid
  let digest ← orRaise .caught (Json.field? "ciphertext_digest" row)
  require (Is (some digest) (.str (p.sha256 final.cipher))) .invalid
  return (final.reader, final.out)

end Objects

/-- `BackupObjectInput(row["object_id"], row["plaintext_digest"], row["byte_size"])`, with the row. -/
def inputOf (v : Json ν) : Result (BackupObjectInput × Row ν) := do
  let row ← orRaise .caught (Json.members? v)
  let objectId ← orRaise .caught (Json.field? "object_id" row)
  let checksum ← orRaise .caught (Json.field? "plaintext_digest" row)
  let byteSize ← orRaise .caught (Json.field? "byte_size" row)
  match Json.text? objectId with
  | none => .error .unsafeId
  | some objectId =>
    if hsafe : isSafeId objectId = true then
      match Json.text? checksum with
      | none => .error (.recovery "BACKUP_MANIFEST_INVALID" 400)
      | some checksum =>
        if hhashed : isDigest checksum = true then
          match Json.nat? byteSize with
          | none => .error (.recovery "BACKUP_MANIFEST_INVALID" 400)
          | some byteSize => .ok (⟨objectId, checksum, byteSize, hsafe, hhashed⟩, row)
        else .error (.recovery "BACKUP_MANIFEST_INVALID" 400)
    else .error .unsafeId

/-- `receipt["metadata_size"]` and the text of the metadata. -/
def readMetadata (receipt : Row ν) (r : Reader) : Result (Bytes × Reader) := do
  let value ← orRaise .caught (Json.field? "metadata_size" receipt)
  let size ← orRaise .invalid (Json.nat? value)
  require (0 < size ∧ size ≤ maxMetadataBytes) .invalid
  let (blob, r) ← readFrame maxMetadataBytes r
  let digest ← orRaise .caught (Json.field? "metadata_digest" receipt)
  let (raw, r) ← openBlob ν p store scope "metadata" blob [value, digest] r
  require (raw.length = size ∧ Is (some digest) (.str (p.sha256 raw))) .invalid
  return (raw, r)

def receiptObjects (receipt : Row ν) : Result (List (BackupObjectInput × Row ν)) := do
  let values ← orRaise .caught ((Json.field? "objects" receipt).bind Json.items?)
  let rows ← values.mapM inputOf
  let items ← checkObjects (rows.map (·.1))
  require (items.map (·.objectId) = rows.map (·.1.objectId)) .invalid
  return items.zip (rows.map (·.2))

def readOwner (folder : Folder) (nonces : List Bytes) : Result (String × List Bytes) := do
  let blob ← readFile folder.owner 16384
  let (raw, nonces) ← decrypt ν p store scope "owner" blob [] nonces
  let value ← orRaise .invalid (loads (ν := ν) raw)
  let owner ← orRaise .invalid (Json.members? value)
  require (Json.HasKeys ["scope", "owner_id"] owner) .invalid
  require (Is (Json.field? "scope" owner) (.obj scope.binding)) .invalid
  let ownerId ← orRaise .unsafeId (Json.textOf? "owner_id" owner)
  require (isSafeId ownerId = true) .unsafeId
  return (ownerId, nonces)

/-- The owner is read, and `MAGIC`. -/
def openData (folder : Folder) : Result Reader := do
  let (_, nonces) ← readOwner (ν := ν) p store scope folder []
  let data ← orRaise .invalid folder.data
  let (head, r) ← read magic.length ⟨data, [], nonces⟩
  require (head = magic) .invalid
  return r

def verifyData {σ : Type} (sink : Sink σ) (folder : Folder) (receipt : Row ν) (out : σ) :
    Result (Json ν × σ) := do
  let r ← openData (ν := ν) p store scope folder
  let (raw, r) ← readMetadata p store scope receipt r
  let metadata ← orRaise .caught (loads (ν := ν) raw)
  let items ← receiptObjects receipt
  let _ ← validateMetadata p scope metadata (items.map (·.1))
  let (r, out) ← items.foldlM (fun s item => readObject p store scope sink item.1 s item.2) (r, out)
  require (r.rest = []) .invalid
  let size ← orRaise .caught (Json.field? "data_size" receipt)
  require (Is (some size) (number r.seen.length)) .invalid
  let digest ← orRaise .caught (Json.field? "data_digest" receipt)
  require (Is (some digest) (.str (p.sha256 r.seen))) .invalid
  return (metadata, out)

/-- The sink of `verify`. -/
def ignore : Sink Unit := fun _ _ => .ok ()

/-- `_receipt`. -/
def readReceipt (folder : Folder) (expected : Option (Json ν)) : Result (Row ν) := do
  let blob ← readFile folder.receipt maxMetadataBytes
  let (raw, _) ← decrypt ν p store scope "manifest" blob [] []
  let value ← orRaise .caught (loads (ν := ν) raw)
  let receipt ← orRaise .other (Json.members? value)
  require (∀ member ∈ (scope.binding : Row ν), Is (Json.field? member.1 receipt) member.2) .invalid
  require (Is (Json.field? "key_version" receipt) (.str store.keyVersion) ∧
    Is (Json.field? "key_reference" receipt) (.str store.keyReference)) .invalid
  require (∀ v ∈ expected, Is (some value) v) .invalid
  let text ← orRaise .caught (Json.textOf? "verified_at" receipt)
  let aware ← orRaise .caught (p.fromisoformat text)
  require (aware = true) .invalid
  return receipt

structure VerifiedCapture (ν : Type) where
  metadata : Json ν
  receipt : Json ν

def verify (root : Root) (expected : Option (Json ν)) : Result (VerifiedCapture ν) :=
  Except.mapError Exn.verified do
    let folder ← captureDir scope root
    let receipt ← readReceipt p store scope folder expected
    let (metadata, _) ← verifyData p store scope ignore folder receipt ()
    return ⟨metadata, .obj receipt⟩

/-- The destination of `restore`: its files, and `outputs`. -/
structure Destination where
  files : List (String × Bytes)
  outputs : List (String × String)
  deriving DecidableEq

def outputName (item : BackupObjectInput) : String := p.sha256 (encode item.objectId) ++ ".bin"

/-- The sink of `restore`. -/
def store_ : Sink Destination := fun d chunk =>
  let name := outputName p chunk.1
  if chunk.2.1 = 0 then
    if name ∈ d.files.map (·.1) then .error .invalid
    else .ok ⟨d.files ++ [(name, chunk.2.2)], d.outputs ++ [(chunk.1.objectId, name)]⟩
  else .ok { d with files := d.files.map fun file =>
    if file.1 = name then (name, file.2 ++ chunk.2.2) else file }

/-- `restore`, where the files may be others when they are read again. -/
def restore (root again : Root) (vacant : Bool) (expected : Json ν) : Result Destination := do
  let folder ← captureDir scope root
  let receipt ← readReceipt p store scope folder (some expected)
  let _ ← verifyData p store scope ignore folder receipt ()
  require (vacant = true) .invalid
  let folder ← orRaise .invalid (again scope.captureId)
  let (_, out) ← verifyData p store scope (store_ p) folder receipt ⟨[], []⟩
  return out

end Verify

def capture {ν : Type} [PythonNumber ν] (p : Primitives) (store : FileCaptureStore) (c : CaptureCall ν p)
    (root : Root) : Result (Json ν × Root) := do
  let objects ← checkObjects c.objects
  let raw ← validateMetadata p c.scope c.metadata objects
  require (isSafeId c.ownerId = true) .unsafeId
  let name ← directoryName c.scope
  require (root name).isNone .invalid
  let (owner, nonces) ← encrypt ν p store c.scope c.draws "owner"
    (dumps (.obj [("scope", .obj c.scope.binding), ("owner_id", .str c.ownerId)] : Json ν)) [] []
  let (blob, nonces) ← encrypt ν p store c.scope c.draws "metadata" raw
    [number raw.length, .str (p.sha256 raw)] nonces
  let data ← frame magic blob
  let (written, records) ← objects.foldlM (fun s item => writeObject p store c item s) (⟨data, nonces⟩, [])
  let members := receiptMembers p store c.scope raw records written.data
  let _ ← verifyData p store c.scope ignore ⟨some owner, some written.data, none⟩ members ()
  let receipt : Json ν := .obj (members ++ [("verified_at", .str c.verifiedAt.text)])
  let (blob, _) ← encrypt ν p store c.scope c.draws "manifest" (dumps receipt) [] written.nonces
  return (receipt, Function.update root name (some ⟨some owner, some written.data, some blob⟩))

end DaonUser.RecoveryCapture
