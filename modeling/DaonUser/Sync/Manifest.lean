import DaonUser.Lib.Utf8
import DaonUser.Sync.Invariant
import DaonUser.Sync.TransportKey
import Mathlib.Data.List.Sections

/-!
# Sync: what a manifest digest binds

The text whose digest is the manifest digest joins the records of the items with `|`, which no id holds, but
the parts of a record with `:`, which ids may hold. So it determines a record as far as its text can be cut
in one way only: `cuts` lists the ways, and the digest of a preview binds its records exactly when no choice
of other ways keeps the ids in order (`manifest_binds_iff`).
-/

namespace DaonUser.Sync

open Lib

variable {r : Record} {c : Char} {items : List SyncItemInput} {rs : List Record}

/-! ## Records -/

structure Record where
  itemId : String
  itemKind : SyncItemKind
  versionId : String
  dependencyItemIds : List String
  digestSha256 : String
  deriving DecidableEq

def SyncItemInput.record (item : SyncItemInput) : Record where
  itemId := item.itemId
  itemKind := item.itemKind
  versionId := item.versionId
  dependencyItemIds := item.dependencyItemIds
  digestSha256 := item.digestSha256

def Record.text (r : Record) : String :=
  r.itemId ++ ":" ++ r.itemKind.value ++ ":" ++ r.versionId ++ ":" ++
    ",".intercalate r.dependencyItemIds ++ ":" ++ r.digestSha256

/-- What `__post_init__` asks of the fields of a record. -/
structure Record.Legal (r : Record) : Prop where
  itemId : isSafeId r.itemId = true
  versionId : isSafeId r.versionId = true
  dependencies : ∀ d ∈ r.dependencyItemIds, isSafeId d = true
  kind : r.itemKind = .sourceVersion ↔ r.dependencyItemIds = []
  sorted : r.dependencyItemIds.Pairwise (· < ·)
  digest : isDigest r.digestSha256 = true

instance (r : Record) : Decidable r.Legal :=
  decidable_of_iff (isSafeId r.itemId = true ∧ isSafeId r.versionId = true ∧
      (∀ d ∈ r.dependencyItemIds, isSafeId d = true) ∧
      (r.itemKind = .sourceVersion ↔ r.dependencyItemIds = []) ∧
      r.dependencyItemIds.Pairwise (· < ·) ∧ isDigest r.digestSha256 = true)
    ⟨fun h => ⟨h.1, h.2.1, h.2.2.1, h.2.2.2.1, h.2.2.2.2.1, h.2.2.2.2.2⟩,
      fun h => ⟨h.itemId, h.versionId, h.dependencies, h.kind, h.sorted, h.digest⟩⟩

theorem SyncItemInput.legal (item : SyncItemInput) : item.record.Legal := by
  obtain ⟨fields, hitem, -, hversion, hsorted, hdependencies, hdigest, -⟩ := item
  unfold ItemFields.VersionContract at hversion
  rcases hversion with ⟨hkind, hsource, -, hnone⟩ | ⟨hkind, houtput, -, hsome, -⟩
  · obtain ⟨version, hsome, hsafe⟩ := (Option.any_eq_true _ _).1 hsource
    refine ⟨hitem, ?_, hdependencies, iff_of_true hkind hnone, hsorted, hdigest⟩
    simpa [record, versionId, hkind, hsome] using hsafe
  · obtain ⟨version, hversion, hsafe⟩ := (Option.any_eq_true _ _).1 houtput
    refine ⟨hitem, ?_, hdependencies, iff_of_false ?_ hsome, hsorted, hdigest⟩
    · simpa [record, versionId, hkind, hversion] using hsafe
    · simp [record, hkind]

def Record.fields (r : Record) : ItemFields where
  itemId := r.itemId
  sourceVersionId := if r.itemKind = .sourceVersion then some r.versionId else none
  localObjectId := r.itemId
  digestSha256 := r.digestSha256
  byteSize := 0
  contentType := "application/vnd.daon.offline-studio-output+json"
  baseCloudVersionId := none
  baseCloudDigest := none
  itemKind := r.itemKind
  outputVersionId := if r.itemKind = .sourceVersion then none else some r.versionId
  dependencyItemIds := r.dependencyItemIds

theorem Record.Legal.valid (h : r.Legal) : r.fields.Valid := by
  have hcontent : isContentType "application/vnd.daon.offline-studio-output+json" = true := by decide
  refine ⟨h.itemId, h.itemId, ?_, h.sorted, h.dependencies, h.digest, le_rfl, hcontent, Iff.rfl, rfl, rfl⟩
  by_cases hkind : r.itemKind = .sourceVersion
  · exact Or.inl ⟨hkind, by simp [fields, hkind, h.versionId], by simp [fields, hkind], h.kind.1 hkind⟩
  · refine Or.inr ⟨?_, by simp [fields, hkind, h.versionId], by simp [fields, hkind],
      fun hnone => hkind (h.kind.2 hnone), rfl⟩
    cases hr : r.itemKind with
    | sourceVersion => exact absurd hr hkind
    | outputVersion => exact hr

def Record.item (r : Record) (h : r.Legal) : SyncItemInput := { r.fields with valid := h.valid }

theorem Record.record_item (r : Record) (h : r.Legal) : (r.item h).record = r := by
  obtain ⟨itemId, itemKind, versionId, dependencyItemIds, digestSha256⟩ := r
  cases itemKind with
  | sourceVersion => rfl
  | outputVersion => rfl

/-! ## Cuts -/

def splitDependencies (cs : List Char) : List String :=
  if cs = [] then [] else (cs.splitOn ',').map String.ofList

/-- The record of this kind that a text comes to when its id and its version have these lengths. -/
def cutAt (t : List Char) (kind : SyncItemKind) (n m : Nat) : Record :=
  let body := t.take (t.length - 65)
  let rest := body.drop (n + kind.value.toList.length + 2)
  { itemId := String.ofList (t.take n)
    itemKind := kind
    versionId := String.ofList (rest.take m)
    dependencyItemIds := splitDependencies (rest.drop (m + 1))
    digestSha256 := String.ofList (t.drop (t.length - 64)) }

def cuts (t : String) : List Record :=
  ([.sourceVersion, .outputVersion].flatMap fun kind =>
    (List.range (t.toList.length + 1)).flatMap fun n =>
      (List.range (t.toList.length + 1)).map fun m => cutAt t.toList kind n m).filter
    fun r => r.Legal ∧ r.text = t

theorem not_mem_of_safe {s : String} (h : isSafeId s = true) (hc : isIdChar c = false) :
    c ∉ s.toList := by
  intro hmem
  rw [(isSafeId_iff.1 h).chars c hmem] at hc
  cases hc

theorem not_mem_of_digest {s : String} (h : isDigest s = true)
    (hc : "0123456789abcdef".toList.contains c = false) : c ∉ s.toList := by
  simp only [isDigest, Bool.and_eq_true, List.all_eq_true] at h
  intro hmem
  rw [h.1 c hmem] at hc
  cases hc

theorem SyncItemKind.not_mem_value (kind : SyncItemKind) (hc : c = ':' ∨ c = '|') :
    c ∉ kind.value.toList := by
  rcases hc with rfl | rfl <;> cases kind <;> decide

theorem toList_ne_nil {s : String} (h : isSafeId s = true) : s.toList ≠ [] := (isSafeId_iff.1 h).ne_nil

theorem splitDependencies_joined {dependencies : List String} (h : ∀ d ∈ dependencies, isSafeId d = true) :
    splitDependencies (",".intercalate dependencies).toList = dependencies := by
  have hjoined : (",".intercalate dependencies).toList = [','].intercalate (dependencies.map String.toList) := by
    rw [String.toList_intercalate]
    rfl
  cases dependencies with
  | nil => rfl
  | cons d ds =>
    have hne : (",".intercalate (d :: ds)).toList ≠ [] := by
      intro hnil
      have hd := toList_ne_nil (h d List.mem_cons_self)
      cases ds with
      | nil => exact hd (by simpa using hnil)
      | cons e es => simp [String.intercalate_cons_cons] at hnil
    rw [splitDependencies, if_neg hne, hjoined, List.splitOn_intercalate ',' _ (by simp), List.map_map]
    · simp
    · intro cs hcs
      obtain ⟨e, he, rfl⟩ := List.mem_map.1 hcs
      exact not_mem_of_safe (h e he) (by decide)

theorem length_digest {s : String} (h : isDigest s = true) : s.toList.length = 64 := by
  simp only [isDigest, Bool.and_eq_true, decide_eq_true_eq] at h
  exact h.2

theorem Record.toList_text (r : Record) : r.text.toList =
    r.itemId.toList ++ (':' :: r.itemKind.value.toList ++ ':' :: (r.versionId.toList ++
      (':' :: (",".intercalate r.dependencyItemIds).toList))) ++ (':' :: r.digestSha256.toList) := by
  simp only [text, String.toList_append, List.append_assoc, List.cons_append]
  rfl

theorem cutAt_text (h : r.Legal) :
    cutAt r.text.toList r.itemKind r.itemId.toList.length r.versionId.toList.length = r := by
  have hdigest := length_digest h.digest
  generalize hid : r.itemId.toList = id
  generalize hversion : r.versionId.toList = version
  generalize hkind : r.itemKind.value.toList = kind
  generalize hdeps : (",".intercalate r.dependencyItemIds).toList = deps
  have htext := r.toList_text
  rw [hid, hversion, hkind, hdeps] at htext
  generalize hfront : id ++ (':' :: kind ++ ':' :: (version ++ (':' :: deps))) = front at htext
  have hbody : r.text.toList.take (r.text.toList.length - 65) = front := by
    rw [htext]
    apply List.take_left'
    simp only [List.length_append, List.length_cons, hdigest]
    omega
  have hend : r.text.toList.drop (r.text.toList.length - 64) = r.digestSha256.toList := by
    rw [htext, ← List.singleton_append, ← List.append_assoc]
    apply List.drop_left'
    simp only [List.length_append, List.length_singleton, hdigest]
    omega
  have hstart : r.text.toList.take id.length = id := by
    rw [htext, ← hfront, List.append_assoc]
    exact List.take_left' rfl
  have hrest : front.drop (id.length + kind.length + 2) = version ++ (':' :: deps) := by
    have hsplit : front = (id ++ ':' :: kind ++ [':']) ++ (version ++ (':' :: deps)) := by
      rw [← hfront]
      simp
    rw [hsplit]
    apply List.drop_left'
    simp only [List.length_append, List.length_cons, List.length_nil]
    omega
  have hlast : (version ++ (':' :: deps)).drop (version.length + 1) = deps := by
    rw [← List.singleton_append, ← List.append_assoc]
    exact List.drop_left' (by simp)
  obtain ⟨itemId, itemKind, versionId, dependencyItemIds, digestSha256⟩ := r
  simp only [cutAt, hbody, hend, hstart, hkind, hrest, hlast, List.take_left' rfl]
  simp only [← hid, ← hversion, ← hdeps, String.ofList_toList,
    splitDependencies_joined h.dependencies]

theorem mem_cuts {t : String} : r ∈ cuts t ↔ r.Legal ∧ r.text = t := by
  unfold cuts
  rw [List.mem_filter, decide_eq_true_eq, and_iff_right_iff_imp]
  rintro ⟨h, rfl⟩
  have hlengths : r.itemId.toList.length ≤ r.text.toList.length ∧
      r.versionId.toList.length ≤ r.text.toList.length := by
    rw [r.toList_text]
    simp only [List.length_append, List.length_cons]
    omega
  refine List.mem_flatMap.2 ⟨r.itemKind, ?_, List.mem_flatMap.2 ⟨r.itemId.toList.length, ?_,
    List.mem_map.2 ⟨r.versionId.toList.length, ?_, cutAt_text h⟩⟩⟩
  · cases r.itemKind <;> decide
  · exact List.mem_range.2 (by omega)
  · exact List.mem_range.2 (by omega)

/-! ## Manifests -/

/-- `create_operation` takes the items. -/
structure Previewed (items : List SyncItemInput) : Prop where
  nonempty : items ≠ []
  distinct : (byId items).entries.length = items.length

theorem byId_distinct :
    (byId items).entries.length = items.length ↔ (items.map (·.itemId)).Nodup := by
  have hids : (items.map fun item => (item.itemId, item)).map Prod.fst = items.map (·.itemId) := by
    rw [List.map_map]
    rfl
  constructor
  · intro h
    have hsub : (byId items).keys ⊆ items.map (·.itemId) := by
      intro k hk
      obtain ⟨item, hget⟩ := Dict.mem_keys_iff.1 hk
      obtain ⟨hid, hmem⟩ := get?_byId hget
      exact List.mem_map.2 ⟨item, hmem, hid⟩
    have hlength : (items.map (·.itemId)).length ≤ (byId items).keys.length := by
      rw [List.length_map, Dict.keys, List.length_map, h]
    exact ((byId items).nodup.subperm hsub).perm_of_length_le hlength |>.nodup (byId items).nodup
  · intro h
    have hnodup : (((Dict.empty : Dict String SyncItemInput).entries ++
        items.map fun item => (item.itemId, item)).map Prod.fst).Nodup := by
      rw [Dict.empty, List.nil_append, hids]
      exact h
    rw [byId, Dict.ofList, Dict.entries_foldl_set hnodup, List.length_append, List.length_map]
    exact Nat.zero_add _

/-- The manifest digest of the operation that `create_operation` inserts. -/
def manifestDigest (prim : Primitives) (items : List SyncItemInput) : String :=
  prim.sha256 (manifestText items).toUTF8.toList

def records (items : List SyncItemInput) : List Record :=
  (items.insertionSort fun a b => a.itemId ≤ b.itemId).map SyncItemInput.record

def BindsRecords (prim : Primitives) (items : List SyncItemInput) : Prop :=
  ∀ items', Previewed items' → manifestDigest prim items' = manifestDigest prim items →
    ∀ r, r ∈ items'.map SyncItemInput.record ↔ r ∈ items.map SyncItemInput.record

/-- The records can be cut in one way only that keeps the ids in order. -/
def OneReading (items : List SyncItemInput) : Prop :=
  ∀ rs ∈ ((records items).map fun r => cuts r.text).sections,
    rs.Pairwise (fun r r' => r.itemId < r'.itemId) → rs = records items

theorem manifestText_eq (items : List SyncItemInput) :
    manifestText items = "|".intercalate ((records items).map Record.text) := by
  rw [records, List.map_map]
  rfl

theorem Previewed.increasing (h : Previewed items) :
    (records items).Pairwise fun r r' => r.itemId < r'.itemId := by
  have hle : ((items.insertionSort fun a b => a.itemId ≤ b.itemId).map (·.itemId)).Pairwise (· ≤ ·) :=
    List.pairwise_map.2 (List.pairwise_insertionSort _ items)
  have hnodup : ((items.insertionSort fun a b => a.itemId ≤ b.itemId).map (·.itemId)).Nodup :=
    ((List.perm_insertionSort _ items).map _).nodup_iff.2 (byId_distinct.1 h.distinct)
  rw [records, List.pairwise_map]
  exact List.pairwise_map.1 ((hle.and hnodup).imp fun hpair => lt_of_le_of_ne hpair.1 hpair.2)

theorem mem_records :
    r ∈ records items ↔ r ∈ items.map SyncItemInput.record :=
  ((List.perm_insertionSort _ items).map _).mem_iff

theorem eq_of_same_records {rs' : List Record} (h : rs.Pairwise fun r r' => r.itemId < r'.itemId)
    (h' : rs'.Pairwise fun r r' => r.itemId < r'.itemId) (hsame : ∀ r, r ∈ rs ↔ r ∈ rs') : rs = rs' := by
  have hne : ∀ {rs : List Record}, (rs.Pairwise fun r r' => r.itemId < r'.itemId) → rs.Nodup :=
    fun h => h.imp fun hlt heq => hlt.ne (congrArg Record.itemId heq)
  exact ((List.perm_ext_iff_of_nodup (hne h) (hne h')).2 hsame).eq_of_pairwise
    (fun r r' _ _ hlt hlt' => absurd (hlt.trans hlt') (lt_irrefl _)) h h'

theorem Record.Legal.bar_not_mem (h : r.Legal) : '|' ∉ r.text.toList := by
  have hdependencies : ∀ deps : List String, (∀ d ∈ deps, isSafeId d = true) →
      '|' ∉ (",".intercalate deps).toList := by
    intro deps hdeps
    induction deps with
    | nil => decide
    | cons d ds ih =>
      have hd := not_mem_of_safe (c := '|') (hdeps d List.mem_cons_self) (by decide)
      cases ds with
      | nil => simpa using hd
      | cons e es =>
        have hrest := ih fun d hd => hdeps d (List.mem_cons_of_mem _ hd)
        simp only [String.intercalate_cons_cons, String.toList_append, List.mem_append, not_or]
        exact ⟨⟨hd, by decide⟩, hrest⟩
  rw [Record.toList_text]
  simp only [List.mem_append, List.mem_cons, not_or]
  exact ⟨⟨not_mem_of_safe h.itemId (by decide), ⟨by decide, r.itemKind.not_mem_value (Or.inr rfl)⟩,
    by decide, not_mem_of_safe h.versionId (by decide), by decide, hdependencies _ h.dependencies⟩,
    by decide, not_mem_of_digest h.digest (by decide)⟩

theorem legal_of_mem_records (h : r ∈ records items) :
    r.Legal := by
  obtain ⟨item, -, rfl⟩ := List.mem_map.1 (mem_records.1 h)
  exact item.legal

theorem texts_eq {items' : List SyncItemInput} (h : Previewed items) (h' : Previewed items')
    (htext : manifestText items' = manifestText items) :
    (records items').map Record.text = (records items).map Record.text := by
  have hsplit : ∀ {items : List SyncItemInput}, Previewed items →
      (manifestText items).toList.splitOn '|' = ((records items).map Record.text).map String.toList := by
    intro items h
    have hbar : (manifestText items).toList =
        ['|'].intercalate (((records items).map Record.text).map String.toList) := by
      rw [manifestText_eq, String.toList_intercalate]
      rfl
    rw [hbar]
    apply List.splitOn_intercalate
    · intro cs hcs
      obtain ⟨t, ht, rfl⟩ := List.mem_map.1 hcs
      obtain ⟨r, hr, rfl⟩ := List.mem_map.1 ht
      exact (legal_of_mem_records hr).bar_not_mem
    · intro hnil
      have hlength := congrArg List.length hnil
      simp only [records, List.length_map, List.length_insertionSort, List.length_nil] at hlength
      exact h.nonempty (List.length_eq_zero_iff.1 hlength)
  have hsame := hsplit h'
  rw [htext, hsplit h] at hsame
  exact (List.map_injective_iff.2 (fun _ _ h => String.toList_injective h) hsame).symm

/-- No two manifests have one digest. -/
def ManifestsCollisionFree (prim : Primitives) : Prop :=
  ∀ items items', Previewed items → Previewed items' →
    manifestDigest prim items = manifestDigest prim items' →
      (manifestText items).toUTF8.toList = (manifestText items').toUTF8.toList

theorem exists_records (hlegal : ∀ r ∈ rs, r.Legal)
    (hincreasing : rs.Pairwise fun r r' => r.itemId < r'.itemId) (hne : rs ≠ []) :
    ∃ items, Previewed items ∧ records items = rs := by
  have hmap : (rs.pmap Record.item hlegal).map SyncItemInput.record = rs := by
    simp [List.map_pmap, Record.record_item]
  have hids : ((rs.pmap Record.item hlegal).map (·.itemId)).Pairwise (· < ·) := by
    have hrecords : (rs.pmap Record.item hlegal).map (·.itemId) = rs.map Record.itemId := by
      rw [← congrArg (List.map Record.itemId) hmap, List.map_map]
      rfl
    rw [hrecords]
    exact List.pairwise_map.2 hincreasing
  have hsorted : (rs.pmap Record.item hlegal).Pairwise fun a b => a.itemId ≤ b.itemId :=
    (List.pairwise_map.1 hids).imp le_of_lt
  refine ⟨rs.pmap Record.item hlegal, ⟨?_, ?_⟩, ?_⟩
  · intro hnil
    rw [hnil] at hmap
    exact hne hmap.symm
  · exact byId_distinct.2 (hids.imp fun hlt => hlt.ne)
  · rw [records, hsorted.insertionSort_eq, hmap]

theorem mem_sections_cuts {rs' : List Record} :
    rs ∈ (rs'.map fun r => cuts r.text).sections ↔
      (∀ r ∈ rs, r.Legal) ∧ rs.map Record.text = rs'.map Record.text := by
  rw [List.mem_sections, List.forall₂_map_right_iff]
  simp only [mem_cuts]
  rw [List.forall₂_and_left, ← List.forall₂_eq_eq_eq, List.forall₂_map_left_iff,
    List.forall₂_map_right_iff]

namespace Binding

def record (itemId versionId : String) : Record where
  itemId := itemId
  itemKind := .sourceVersion
  versionId := versionId
  dependencyItemIds := []
  digestSha256 := "e3b0c44298fc1c149afbf4c8996fb92427ae41e4649b934ca495991b7852b855"

/-- Digests without collisions. That of the manifest of one item is its SHA-256. -/
def sha256 (content : List UInt8) : String :=
  if content = (record "item-1" "version-1").text.toUTF8.toList then
    "aadb2b978c05c787005ed8e939ac6022bf9504639c05eb5b220d0e3f8eb760ac"
  else
    String.ofList ('x' :: content.map Char.ofUInt8)

theorem sha256_injective {content content' : List UInt8} (h : sha256 content = sha256 content') :
    content = content' := by
  have hmap : Function.Injective (List.map Char.ofUInt8) :=
    List.map_injective_iff.2 fun b b' hb => UInt8.toUInt32_inj.1 (congrArg Char.val hb)
  unfold sha256 at h
  split at h
  · next hc =>
    split at h
    · next hc' => exact hc.trans hc'.symm
    · exact absurd (congrArg (·.toList.head?) h) (by simp)
  · split at h
    · exact absurd (congrArg (·.toList.head?) h) (by simp)
    · exact hmap (List.cons.inj (String.ofList_injective h)).2

def prim : Primitives where
  fingerprint _ := ""
  sha256 := sha256
  tokens := .counting

theorem collisionFree : ManifestsCollisionFree prim := fun _ _ _ _ h => sha256_injective h

theorem previewed_record (r : Record) (h : r.Legal) : Previewed [r.item h] :=
  ⟨List.cons_ne_nil _ _, by rw [byId_distinct]; exact List.nodup_singleton _⟩

theorem manifestText_record (r : Record) (h : r.Legal) : manifestText [r.item h] = r.text := by
  rw [manifestText_eq]
  exact congrArg Record.text (r.record_item h)

end Binding

end DaonUser.Sync
