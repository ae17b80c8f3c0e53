import DaonUser.Lib.Aead
import DaonUser.RecoveryCapture.Captures

/-!
# Manifests

`encode_manifest` seals a receipt under a key that is derived from the scope in its clear header, and
`decode_manifest` reads the header to derive the key again. What a capture returned is decoded whatever the
lengths of its ids are, and with an ideal cipher what is decoded was encoded (`manifests_lawful`).
-/

namespace DaonUser.RecoveryCapture

open Lib
open Call (bind_eq_ok)
open Snapshot (Bytes encode dumps loads pack unpack number loads_dumps pack_unpack unpack_pack)

section

variable {ν : Type} [PythonNumber ν]

/-! ## Scopes that are read -/

/-- `asdict(scope)`. -/
def CaptureScope.asdict (scope : CaptureScope) : Row ν :=
  [("capture_id", .str scope.captureId), ("tenant_id", .str scope.tenantId),
    ("workspace_id", .str scope.workspaceId), ("notebook_id", .str scope.notebookId),
    ("source_version_ids", .arr (scope.sourceVersionIds.map .str)),
    ("selection_fingerprint", .str scope.selectionFingerprint),
    ("schema_revision", .str scope.schemaRevision), ("policy_version", .str scope.policyVersion),
    ("retention_watermark", .str scope.retentionWatermark)]

/-- The fields of a `CaptureScope`. -/
def scopeFields : List String :=
  ["capture_id", "tenant_id", "workspace_id", "notebook_id", "source_version_ids", "selection_fingerprint",
    "schema_revision", "policy_version", "retention_watermark"]

/-- `tuple(value)`, `none` where it raises. -/
def tupleOf : Json ν → Option (List (Json ν))
  | .arr items => some items
  | .str s => some (s.toList.map fun c => .str (String.singleton c))
  | .obj members => some (members.map fun member => .str member.1)
  | _ => none

/-- `CaptureScope(...)`: `__post_init__` checks the fields and sorts the ids. -/
def CaptureScope.make (captureId tenantId workspaceId notebookId : String) (sourceVersionIds : List String)
    (selectionFingerprint schemaRevision policyVersion retentionWatermark : String) : Result CaptureScope :=
  let ids := sourceVersionIds.insertionSort (· ≤ ·)
  if hcounted : (1 ≤ ids.length ∧ ids.length ≤ 100) ∧ ids.Nodup then
    if hsafe : ([captureId, tenantId, workspaceId, notebookId, schemaRevision, policyVersion,
        retentionWatermark] ++ ids).all isSafeId = true then
      if hhashed : isDigest selectionFingerprint = true then
        .ok ⟨captureId, tenantId, workspaceId, notebookId, ids, selectionFingerprint, schemaRevision,
          policyVersion, retentionWatermark, hsafe, hcounted.1, hcounted.2,
          List.pairwise_insertionSort (· ≤ ·) _, hhashed⟩
      else .error .invalid
    else .error .unsafeId
  else .error .invalid

/-- The scope of a header. A field that is no text is refused like one that is no id. -/
def scopeOf (data : Row ν) : Result CaptureScope := do
  let values ← orRaise .caught ((Json.field? "source_version_ids" data).bind tupleOf)
  require (Json.HasKeys scopeFields data) .caught
  let text := fun key => orRaise .unsafeId (Json.textOf? key data)
  CaptureScope.make (← text "capture_id") (← text "tenant_id") (← text "workspace_id") (← text "notebook_id")
    (← orRaise .unsafeId (values.mapM Json.text?)) (← text "selection_fingerprint")
    (← text "schema_revision") (← text "policy_version") (← text "retention_watermark")

theorem CaptureScope.make_eq (scope : CaptureScope) :
    CaptureScope.make scope.captureId scope.tenantId scope.workspaceId scope.notebookId
      scope.sourceVersionIds scope.selectionFingerprint scope.schemaRevision scope.policyVersion
      scope.retentionWatermark = .ok scope := by
  have hsorted : scope.sourceVersionIds.insertionSort (· ≤ ·) = scope.sourceVersionIds :=
    scope.ordered.insertionSort_eq
  unfold CaptureScope.make
  simp only [hsorted]
  rw [dif_pos ⟨scope.counted, scope.distinct⟩, dif_pos scope.safe, dif_pos scope.hashed]

omit [PythonNumber ν] in
theorem CaptureScope.scopeOf_asdict (scope : CaptureScope) :
    scopeOf (sortedRow (scope.asdict : Row ν)) = .ok scope := by
  have hids : ((scope.sourceVersionIds.map .str : List (Json ν)).mapM Json.text?) =
      some scope.sourceVersionIds := by
    induction scope.sourceVersionIds with
    | nil => rfl
    | cons id ids ih => rw [List.map_cons, List.mapM_cons, ih]; rfl
  have hvalues : (Json.field? "source_version_ids" (sortedRow (scope.asdict : Row ν))).bind tupleOf =
      some (scope.sourceVersionIds.map .str) := by
    rw [field?_sortedRow]
    simp [asdict, Json.field?_cons, Json.sorted, Json.sortedItems_eq, tupleOf]
  have hkeys : Json.HasKeys scopeFields (sortedRow (scope.asdict : Row ν)) :=
    hasKeys_sortedRow.2 (by simp [Json.HasKeys, scopeFields, asdict])
  have htexts : ∀ field ∈ [("capture_id", scope.captureId), ("tenant_id", scope.tenantId),
      ("workspace_id", scope.workspaceId), ("notebook_id", scope.notebookId),
      ("selection_fingerprint", scope.selectionFingerprint), ("schema_revision", scope.schemaRevision),
      ("policy_version", scope.policyVersion), ("retention_watermark", scope.retentionWatermark)],
      Json.textOf? field.1 (sortedRow (scope.asdict : Row ν)) = some field.2 := by
    simp only [textOf?_sortedRow]
    simp [Json.textOf?, asdict, Json.field?_cons, Json.text?]
  simp only [List.forall_mem_cons] at htexts
  obtain ⟨h₁, h₂, h₃, h₄, h₅, h₆, h₇, h₈, -⟩ := htexts
  simp only [scopeOf, bind_eq_ok, require_eq_ok, orRaise_eq_ok, exists_const]
  exact ⟨_, hvalues, hkeys, _, h₁, _, h₂, _, h₃, _, h₄, _, hids, _, h₅, _, h₆, _, h₇, _, h₈, scope.make_eq⟩

/-! ## Manifests -/

def manifestMagic : Bytes := encode "DRM2"

/-- What a receipt has to say of its scope. -/
def Bound (scope : CaptureScope) (receipt : Row ν) : Prop :=
  ∀ member ∈ (scope.binding : Row ν), Is (Json.field? member.1 receipt) member.2

instance (scope : CaptureScope) (receipt : Row ν) : Decidable (Bound scope receipt) :=
  inferInstanceAs (Decidable (∀ member ∈ _, _))

variable (p : Primitives) (keys : FileCaptureStore)

def headerMembers (scope : CaptureScope) : Row ν :=
  [("scope", .obj scope.asdict), ("key_version", .str keys.keyVersion),
    ("key_reference", .str keys.keyReference)]

def header (ν : Type) [PythonNumber ν] (scope : CaptureScope) : Bytes :=
  dumps (.obj (headerMembers keys scope) : Json ν)

/-- `encode_manifest`, with the key, its version and its reference, and the nonce that it draws. -/
def encodeManifest (scope : CaptureScope) (receipt : Row ν) (nonce : Bytes) : Result Bytes := do
  let head := header keys ν scope
  require (Bound scope receipt) .invalid
  let body := p.encrypt (cipherKey ν p keys scope "db-manifest") nonce (dumps (.obj receipt)) head
  let size ← orRaise .other (pack head.length)
  return manifestMagic ++ size ++ head ++ (nonce ++ body)

/-- The header of `decode_manifest`. -/
def readHeader (ν : Type) [PythonNumber ν] (head : Bytes) : Result CaptureScope := do
  let parsed ← orRaise .caught ((loads (ν := ν) head).bind Json.members?)
  require (Json.HasKeys ["scope", "key_version", "key_reference"] parsed) .invalid
  require (Is (Json.field? "key_version" parsed) (.str keys.keyVersion) ∧
    Is (Json.field? "key_reference" parsed) (.str keys.keyReference)) .invalid
  let data ← orRaise .caught ((Json.field? "scope" parsed).bind Json.members?)
  scopeOf data

/-- The receipt of `decode_manifest`. -/
def openReceipt (scope : CaptureScope) (raw : Bytes) : Result (Row ν) := do
  let value ← orRaise .caught (loads (ν := ν) raw)
  let receipt ← orRaise .other (Json.members? value)
  require (Bound scope receipt) .invalid
  require (Is (Json.field? "key_version" receipt) (.str keys.keyVersion) ∧
    Is (Json.field? "key_reference" receipt) (.str keys.keyReference)) .invalid
  return receipt

/-- `decode_manifest`, where `decrypt` opens a body with a key, a nonce and the associated data before it. -/
def decodeManifest (decrypt : Bytes → Bytes → Bytes → Bytes → Option Bytes) (envelope : Bytes) :
    Result (CaptureScope × Row ν) :=
  Except.mapError Exn.verified do
    require (manifestMagic <+: envelope ∧ envelope.length ≤ 1024 * 1024) .invalid
    require (8 ≤ envelope.length) .caught
    let size := unpack ((envelope.drop 4).take 4)
    require ((0 < size ∧ size ≤ 16384) ∧ 8 + size + 28 ≤ envelope.length) .invalid
    let head := (envelope.drop 8).take size
    let scope ← readHeader keys ν head
    let blob := envelope.drop (8 + size)
    let raw ← orRaise .caught
      (decrypt (cipherKey ν p keys scope "db-manifest") (blob.take 12) head (blob.drop 12))
    let receipt ← openReceipt keys scope raw
    return (scope, receipt)

variable {p} {keys} {scope : CaptureScope} {row receipt : Row ν} {envelope head nonce body raw : Bytes}
  {decrypt : Bytes → Bytes → Bytes → Bytes → Option Bytes}

/-- The parts of a manifest. -/
structure Framed (envelope head nonce body : Bytes) : Prop where
  parts : ∃ size, pack head.length = some size ∧ envelope = manifestMagic ++ size ++ head ++ (nonce ++ body)
  head : 0 < head.length ∧ head.length ≤ 16384
  nonce : nonce.length = 12
  body : 16 ≤ body.length
  short : envelope.length ≤ 1024 * 1024

theorem length_manifestMagic : manifestMagic.length = 4 := by decide

theorem decodeManifest_eq_ok : decodeManifest p keys decrypt envelope = .ok (scope, row) ↔
    ∃ head nonce body raw, Framed envelope head nonce body ∧ readHeader keys ν head = .ok scope ∧
      decrypt (cipherKey ν p keys scope "db-manifest") nonce head body = some raw ∧
      openReceipt keys scope raw = .ok row := by
  have hmap : ∀ x : Result (CaptureScope × Row ν),
      x.mapError Exn.verified = .ok (scope, row) ↔ x = .ok (scope, row) := fun x => by
    cases x <;> simp [Except.mapError]
  rw [decodeManifest, hmap]
  simp only [bind_eq_ok, require_eq_ok, orRaise_eq_ok, pure_eq_ok, exists_const, Prod.mk.injEq]
  constructor
  · rintro ⟨⟨hmagic, hshort⟩, hlong, ⟨hsize, hrest⟩, scope, hhead, raw, hraw, row, hrow, rfl, rfl⟩
    set n := unpack ((envelope.drop 4).take 4) with hn
    have hhead' : ((envelope.drop 8).take n).length = n := by
      rw [List.length_take, List.length_drop]
      omega
    have hblob : (envelope.drop (8 + n)).length = envelope.length - (8 + n) := List.length_drop
    refine ⟨_, _, _, raw, ⟨⟨(envelope.drop 4).take 4, ?_, ?_⟩, ?_, ?_, ?_, hshort⟩, hhead, hraw, hrow⟩
    · rw [hhead', hn]
      exact pack_unpack (by rw [List.length_take, List.length_drop]; omega)
    · have hprefix : envelope.take 4 = manifestMagic := (List.prefix_iff_eq_take.1 hmagic).symm
      have hdrop : envelope.drop (8 + n) = (envelope.drop 8).drop n := List.drop_drop.symm
      have hdrop' : envelope.drop 8 = (envelope.drop 4).drop 4 := by rw [List.drop_drop]
      rw [List.take_append_drop, hdrop, List.append_assoc, List.take_append_drop, hdrop', List.append_assoc,
        List.take_append_drop, ← hprefix, List.take_append_drop]
    · rw [hhead']
      exact hsize
    · rw [List.length_take, hblob]
      omega
    · rw [List.length_drop, hblob]
      omega
  · rintro ⟨head, nonce, body, raw, ⟨⟨size, hpack, rfl⟩, hhead, hnonce, hbody, hshort⟩, hscope, hraw, hrow⟩
    obtain ⟨hunpack, hlength⟩ := unpack_pack hpack
    have hmagic := length_manifestMagic
    have hsize : ((manifestMagic ++ size ++ head ++ (nonce ++ body)).drop 4).take 4 = size := by
      rw [List.append_assoc, List.append_assoc, ← hmagic, List.drop_left, hmagic, ← hlength, List.take_left]
    have hrest : (manifestMagic ++ size ++ head ++ (nonce ++ body)).drop 8 = head ++ (nonce ++ body) := by
      rw [List.append_assoc, List.drop_left' (by rw [List.length_append]; omega)]
    have hblob : (manifestMagic ++ size ++ head ++ (nonce ++ body)).drop (8 + head.length) = nonce ++ body :=
      List.drop_left' (by rw [List.length_append, List.length_append]; omega)
    simp only [List.length_append] at *
    rw [hsize, hunpack, hrest, hblob, List.take_left, ← hnonce, List.take_left, List.drop_left]
    refine ⟨⟨⟨_, by rw [List.append_assoc, List.append_assoc]⟩, hshort⟩, by omega, ⟨hhead, by omega⟩, scope,
      hscope, raw, hraw, row, hrow, rfl, rfl⟩

/-! ## What was encoded is decoded -/

omit [PythonNumber ν] in
theorem sorted_obj (row : Row ν) : (Json.obj row).sorted = .obj (sortedRow row) := rfl

theorem readHeader_header {keys' : FileCaptureStore} {scope' : CaptureScope} :
    readHeader keys ν (header keys' ν scope') = .ok scope ↔
      scope' = scope ∧ keys'.keyVersion = keys.keyVersion ∧ keys'.keyReference = keys.keyReference := by
  have hloads : (loads (ν := ν) (header keys' ν scope')).bind Json.members? =
      some (sortedRow (headerMembers keys' scope')) := by
    rw [header, loads_dumps]
    rfl
  have hkeys : Json.HasKeys ["scope", "key_version", "key_reference"]
      (sortedRow (headerMembers keys' scope' : Row ν)) :=
    hasKeys_sortedRow.2 (by simp [Json.HasKeys, headerMembers])
  have hdata : (Json.field? "scope" (sortedRow (headerMembers keys' scope' : Row ν))).bind Json.members? =
      some (sortedRow scope'.asdict) := by
    rw [field?_sortedRow]
    simp [headerMembers, Json.field?_cons, sorted_obj, Json.members?]
  have hversion : Is (Json.field? "key_version" (sortedRow (headerMembers keys' scope' : Row ν)))
      (.str keys.keyVersion) ↔ keys'.keyVersion = keys.keyVersion := by
    rw [field?_sortedRow, is_sorted_str]
    simp [headerMembers, Json.field?_cons, Is, Json.same]
  have hreference : Is (Json.field? "key_reference" (sortedRow (headerMembers keys' scope' : Row ν)))
      (.str keys.keyReference) ↔ keys'.keyReference = keys.keyReference := by
    rw [field?_sortedRow, is_sorted_str]
    simp [headerMembers, Json.field?_cons, Is, Json.same]
  simp only [readHeader, bind_eq_ok, require_eq_ok, orRaise_eq_ok, exists_const]
  constructor
  · rintro ⟨parsed, hparsed, -, hkeys, data, hfound, hscope⟩
    rw [hloads, Option.some.injEq] at hparsed
    subst hparsed
    rw [hversion, hreference] at hkeys
    rw [hdata, Option.some.injEq] at hfound
    subst hfound
    rw [CaptureScope.scopeOf_asdict, Except.ok.injEq] at hscope
    exact ⟨hscope, hkeys⟩
  · rintro ⟨rfl, hsame⟩
    refine ⟨_, hloads, hkeys, ?_, _, hdata, scope'.scopeOf_asdict⟩
    rwa [hversion, hreference]

theorem openReceipt_dumps : openReceipt keys scope (dumps (.obj receipt)) = .ok row ↔
    row = sortedRow receipt ∧ Bound scope row ∧ Is (Json.field? "key_version" row) (.str keys.keyVersion) ∧
      Is (Json.field? "key_reference" row) (.str keys.keyReference) := by
  have hloads : (loads (dumps (.obj receipt)) : Option (Json ν)) = some (.obj (sortedRow receipt)) :=
    loads_dumps _
  simp only [openReceipt, bind_eq_ok, require_eq_ok, orRaise_eq_ok, pure_eq_ok, exists_const, hloads,
    Option.some.injEq]
  constructor
  · rintro ⟨_, rfl, members, hmembers, hbound, hkeys, rfl⟩
    exact ⟨(Option.some.inj hmembers).symm, hbound, hkeys⟩
  · rintro ⟨rfl, hbound, hkeys⟩
    exact ⟨_, rfl, _, rfl, hbound, hkeys, rfl⟩

theorem encodeManifest_eq_ok : encodeManifest p keys scope receipt nonce = .ok envelope ↔
    Bound scope receipt ∧ ∃ size, pack (header keys ν scope).length = some size ∧
      envelope = manifestMagic ++ size ++ header keys ν scope ++ (nonce ++
        p.encrypt (cipherKey ν p keys scope "db-manifest") nonce (dumps (.obj receipt)) (header keys ν scope)) := by
  simp only [encodeManifest, bind_eq_ok, require_eq_ok, orRaise_eq_ok, pure_eq_ok, exists_const]
  refine and_congr_right fun _ => exists_congr fun size => and_congr_right fun _ => eq_comm

theorem decode_encode (hencode : encodeManifest p keys scope receipt nonce = .ok envelope)
    (hnonce : nonce.length = 12) (hhead : (header keys ν scope).length ≤ 16384)
    (hraw : (dumps (.obj receipt)).length ≤ 1000000)
    (hopen : decrypt (cipherKey ν p keys scope "db-manifest") nonce (header keys ν scope)
      (p.encrypt (cipherKey ν p keys scope "db-manifest") nonce (dumps (.obj receipt)) (header keys ν scope)) =
        some (dumps (.obj receipt)))
    (hreceipt : openReceipt keys scope (dumps (.obj receipt)) = .ok row) :
    decodeManifest p keys decrypt envelope = .ok (scope, row) := by
  obtain ⟨-, size, hsize, henvelope⟩ := encodeManifest_eq_ok.1 hencode
  have hlength := (unpack_pack hsize).2
  have hbody := p.length_encrypt (cipherKey ν p keys scope "db-manifest") nonce (dumps (.obj receipt))
    (header keys ν scope)
  have hpos : 0 < (header keys ν scope).length := dumps_pos _
  refine decodeManifest_eq_ok.2 ⟨_, nonce, _, _,
    ⟨⟨size, hsize, henvelope⟩, ⟨hpos, hhead⟩, hnonce, by omega, ?_⟩, readHeader_header.2 ⟨rfl, rfl, rfl⟩, hopen,
    hreceipt⟩
  simp only [henvelope, List.length_append, length_manifestMagic]
  omega

theorem binding_sorted (scope : CaptureScope) : ∀ member ∈ (scope.binding : Row ν), member.2.sorted = member.2 := by
  simp [CaptureScope.binding, number, Json.sorted, Json.sortedItems_eq]

theorem weight_header : Json.weight (.obj (headerMembers keys scope) : Json ν) ≤ 16000 := by
  have hsafe := scope.safe
  simp only [List.cons_append, List.nil_append, List.all_cons, Bool.and_eq_true] at hsafe
  obtain ⟨hcapture, htenant, hworkspace, hnotebook, hschema, hpolicy, hretention, -⟩ := hsafe
  have hstore := keys.safe
  simp only [List.all_cons, List.all_nil, Bool.and_true, Bool.and_eq_true] at hstore
  have h₁ := weight_id (ν := ν) hcapture
  have h₂ := weight_id (ν := ν) htenant
  have h₃ := weight_id (ν := ν) hworkspace
  have h₄ := weight_id (ν := ν) hnotebook
  have h₅ := weight_id (ν := ν) hschema
  have h₆ := weight_id (ν := ν) hpolicy
  have h₇ := weight_id (ν := ν) hretention
  have h₈ := weight_id (ν := ν) hstore.1
  have h₉ := weight_id (ν := ν) hstore.2
  have hids := weight_binding (ν := ν) scope
  have hfingerprint := weight_digest (ν := ν) scope.hashed
  have hscope : Json.textWeight "scope" = 7 := by decide
  have hkeys := keys_weight
  have hobj : ∀ members : Row ν, Json.weight (.obj members) = Json.membersWeight members + 2 :=
    fun _ => by rw [Json.weight]
  simp only [hobj, headerMembers, CaptureScope.asdict, Json.membersWeight]
  omega

end

section

variable {ν : Type} [PythonNumber ν] {p : Primitives}

/-- A call of `encode_manifest`. -/
structure ManifestCall (ν : Type) where
  keys : FileCaptureStore
  scope : CaptureScope
  receipt : Row ν
  nonce : Bytes

def ManifestCall.key (p : Primitives) (call : ManifestCall ν) : Bytes :=
  cipherKey ν p call.keys call.scope "db-manifest"

def ManifestCall.sealing (p : Primitives) (call : ManifestCall ν) : Sealed Bytes Bytes Bytes Bytes Bytes where
  key := call.key p
  nonce := call.nonce
  aad := header call.keys ν call.scope
  message := dumps (.obj call.receipt)
  body := p.encrypt (call.key p) call.nonce (dumps (.obj call.receipt)) (header call.keys ν call.scope)

/-- All that was sealed with a master key: by `encode_manifest`, and for other purposes. -/
def sealings (p : Primitives) (calls : List (ManifestCall ν)) (others : List (Sealed Bytes Bytes Bytes Bytes Bytes)) :
    List (Sealed Bytes Bytes Bytes Bytes Bytes) :=
  others ++ calls.map (·.sealing p)

variable {calls : List (ManifestCall ν)} {others : List (Sealed Bytes Bytes Bytes Bytes Bytes)}

theorem ManifestCall.decrypt_sealing (call : ManifestCall ν) :
    p.decrypt (call.sealing p).key (call.sealing p).nonce (call.sealing p).body (call.sealing p).aad =
      some (call.sealing p).message := by
  simp only [ManifestCall.sealing, p.decrypt_encrypt]

theorem openSealed_sealing
    (hapart : ∀ x ∈ others, ∀ keys scope, x.key ≠ cipherKey ν p keys scope "db-manifest")
    {call : ManifestCall ν} (hcall : call ∈ calls) :
    openSealed (sealings p calls others) (call.sealing p).key (call.sealing p).nonce (call.sealing p).aad
      (call.sealing p).body = some (call.sealing p).message := by
  have hmem : call.sealing p ∈ sealings p calls others :=
    List.mem_append_right _ (List.mem_map_of_mem (f := (·.sealing p)) hcall)
  refine openSealed_of_mem p.decrypt hmem fun y hy hkey => ?_
  rcases List.mem_append.1 hy with hy | hy
  · simp only [ManifestCall.sealing, ManifestCall.key] at hkey
    exact absurd hkey (hapart y hy call.keys call.scope)
  · obtain ⟨call', -, rfl⟩ := List.mem_map.1 hy
    exact call'.decrypt_sealing

theorem bound_receiptOf {store : FileCaptureStore} {c : CaptureCall ν p} {records : List (Json ν)} {data : Bytes} :
    Bound c.scope (receiptOf store c records data) ∧
      Bound c.scope (sortedRow (receiptOf store c records data)) := by
  have hmem : ∀ member ∈ (c.scope.binding : Row ν), (member.1, member.2) ∈ receiptOf store c records data := by
    intro member hmember
    unfold receiptOf receiptMembers
    exact List.mem_append_left _ (List.mem_append_left _ hmember)
  refine ⟨fun member hmember => ?_, fun member hmember => is_of_mem receiptOf_nodup (hmem member hmember)⟩
  have hsame := Json.same_sorted member.2
  rw [binding_sorted c.scope member hmember] at hsame
  rw [receiptOf_field _ (hmem member hmember), Is, Option.any_some]
  exact hsame

/-- What `capture` has returned, `encode_manifest` encodes and `decode_manifest` decodes, with its members in
the order of their keys; and what is decoded was encoded for the scope and the receipt that it gives. -/
theorem manifests_lawful (calls : List (ManifestCall ν)) (others : List (Sealed Bytes Bytes Bytes Bytes Bytes))
    (hapart : ∀ x ∈ others, ∀ keys scope, x.key ≠ cipherKey ν p keys scope "db-manifest") :
    (∀ (store : FileCaptureStore) (c : CaptureCall ν p) (root root' : Root) (receipt : Row ν),
      capture p store c root = .ok (.obj receipt, root') →
      ∀ (keys : FileCaptureStore) (nonce : Bytes), keys.keyVersion = store.keyVersion →
        keys.keyReference = store.keyReference → nonce.length = 12 →
        ∃ envelope, encodeManifest p keys c.scope receipt nonce = .ok envelope ∧
          (⟨keys, c.scope, receipt, nonce⟩ ∈ calls →
            decodeManifest p keys (openSealed (sealings p calls others)) envelope =
              .ok (c.scope, sortedRow receipt))) ∧
    ∀ (keys : FileCaptureStore) (envelope : Bytes) (scope : CaptureScope) (receipt : Row ν),
      decodeManifest p keys (openSealed (sealings p calls others)) envelope = .ok (scope, receipt) →
      ∃ call ∈ calls, call.scope = scope ∧ sortedRow call.receipt = receipt ∧
        encodeManifest p keys scope receipt call.nonce = .ok envelope := by
  constructor
  · intro store c root root' receipt hcapture keys nonce hversion hreference hnonce
    obtain ⟨objects, records, owner, data, blob, nonces, h, hreceipt, -⟩ := capture_eq_ok hcapture
    obtain rfl := Json.obj.inj hreceipt
    obtain ⟨hbound, hbound'⟩ : Bound c.scope (receiptOf store c records data) ∧
        Bound c.scope (sortedRow (receiptOf store c records data)) := bound_receiptOf
    have hhead : (header keys ν c.scope).length ≤ 16000 :=
      (length_dumps _).trans weight_header
    have hraw : (dumps (.obj (receiptOf store c records data) : Json ν)).length ≤ 60000 :=
      (length_dumps _).trans (weight_receipt h)
    have hmem : ∀ {key : String} {value : Json ν}, (key, value) ∈ receiptOf store c records data →
        Is (Json.field? key (sortedRow (receiptOf store c records data))) value := is_of_mem receiptOf_nodup
    have hversion' : Is (Json.field? "key_version" (sortedRow (receiptOf store c records data)))
        (.str keys.keyVersion) := hmem (by simp [receiptOf, receiptMembers, hversion])
    have hreference' : Is (Json.field? "key_reference" (sortedRow (receiptOf store c records data)))
        (.str keys.keyReference) := hmem (by simp [receiptOf, receiptMembers, hreference])
    have hopened : openReceipt keys c.scope (dumps (.obj (receiptOf store c records data))) =
        .ok (sortedRow (receiptOf store c records data)) :=
      openReceipt_dumps.2 ⟨rfl, hbound', hversion', hreference'⟩
    obtain ⟨envelope, hencode⟩ : ∃ envelope, encodeManifest p keys c.scope (receiptOf store c records data) nonce =
        .ok envelope := by
      have hsize : ∃ size, pack (header keys ν c.scope).length = some size :=
        ⟨_, by rw [pack, if_pos (by omega)]⟩
      obtain ⟨size, hsize⟩ := hsize
      exact ⟨_, encodeManifest_eq_ok.2 ⟨hbound, size, hsize, rfl⟩⟩
    refine ⟨envelope, hencode, fun hcall => ?_⟩
    have hopen := openSealed_sealing hapart hcall
    simp only [ManifestCall.sealing, ManifestCall.key] at hopen
    exact decode_encode hencode hnonce (by omega) (by omega) hopen hopened
  · intro keys envelope scope receipt hdecode
    obtain ⟨head, nonce, body, raw, ⟨⟨size, hsize, hparts⟩, -, -, -, -⟩, hhead, hopen, hreceipt⟩ :=
      decodeManifest_eq_ok.1 hdecode
    rcases List.mem_append.1 (mem_of_openSealed hopen) with hother | hsealed
    · exact absurd rfl (hapart _ hother keys scope)
    · obtain ⟨call, hcall, hsealing⟩ := List.mem_map.1 hsealed
      simp only [ManifestCall.sealing, ManifestCall.key, Sealed.mk.injEq] at hsealing
      obtain ⟨hkey, hnonce, hhead', hraw, hbody⟩ := hsealing
      rw [← hhead'] at hhead
      obtain ⟨hscope, hversion, hreference⟩ := readHeader_header.1 hhead
      rw [← hraw] at hreceipt
      obtain ⟨hrow, hbound, -⟩ := openReceipt_dumps.1 hreceipt
      have hsame : header call.keys ν call.scope = header keys ν scope := by
        rw [header, header, headerMembers, headerMembers, hscope, hversion, hreference]
      have hdumps : dumps (.obj call.receipt : Json ν) = dumps (.obj receipt) := by
        refine dumps_congr ?_
        rw [hrow, ← sorted_obj, Json.sorted_sorted]
      refine ⟨call, hcall, hscope, hrow.symm, encodeManifest_eq_ok.2 ⟨hbound, size, ?_, ?_⟩⟩
      · rw [← hsame, hhead']
        exact hsize
      · rw [hparts, ← hbody, ← hhead', ← hnonce, hkey, hsame, hdumps]

end

/-- The manifest of the capture of an empty object. -/
theorem manifests_lawful_sample : ∃ (receipt : Row Int) (envelope : Bytes), ∃ table,
    encodeManifest Sample.primitives Sample.store Sample.scope receipt (List.replicate 12 0) = .ok envelope ∧
      decodeManifest Sample.primitives Sample.store (openSealed table) envelope =
        .ok (Sample.scope, sortedRow receipt) := by
  obtain ⟨receipt, root', hcapture⟩ := capture_returns Sample.valid
  obtain ⟨objects, records, owner, data, blob, nonces, -, rfl, -⟩ := capture_eq_ok hcapture
  obtain ⟨hencoded, -⟩ := manifests_lawful (p := Sample.primitives)
    [⟨Sample.store, Sample.scope, receiptOf Sample.store Sample.call records data, List.replicate 12 0⟩] []
    (fun x hx => absurd hx List.not_mem_nil)
  obtain ⟨envelope, hencode, hdecode⟩ := hencoded Sample.store Sample.call (fun _ => none) root' _ hcapture
    Sample.store (List.replicate 12 0) rfl rfl List.length_replicate
  exact ⟨_, envelope, _, hencode, hdecode List.mem_cons_self⟩

end DaonUser.RecoveryCapture
