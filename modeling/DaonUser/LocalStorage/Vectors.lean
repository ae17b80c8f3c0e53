import DaonUser.Lib.Dict
import DaonUser.Lib.Slots
import DaonUser.LocalStorage.SyncQueue

/-!
# Local storage: the vectors

The methods of `LocalEncryptedStore` on `vector_items` and on the virtual tables of the embeddings.
`put_vector` creates the table outside its transaction, then deletes the item's old embedding, wherever it
is, and inserts the new one. `vectorStore` runs the methods in any order, with the store locked and opened
between them.
-/

namespace DaonUser.LocalStorage

open Lib

variable {F : Type}

/-! ## Tables -/

/-- The primary key of `vector_items`. -/
structure ItemKey where
  workspaceId : String
  area : String
  itemId : String
  deriving DecidableEq

/-- The other columns of a row of `vector_items`. -/
structure VectorItem where
  vecTable : String
  vecRowid : Int
  dimension : Nat
  metric : String
  keyVersion : Nat
  modelDigest : String
  artifactDigest : String
  embeddingVersion : String
  sourceVersion : String
  objectVersion : String
  deriving DecidableEq

/-- The vector tables with their embeddings by row id, and the rows of `vector_items`. -/
structure Vectors (F : Type) where
  tables : Dict String (Dict Int (List F))
  items : Dict ItemKey VectorItem

namespace Vectors

def embedding? (v : Vectors F) (table : String) (rowid : Int) : Option (List F) :=
  (v.tables.get? table).bind fun rows => rows.get? rowid

/-- `CREATE VIRTUAL TABLE IF NOT EXISTS`. -/
def createTable (v : Vectors F) (table : String) : Vectors F :=
  match v.tables.get? table with
  | some _ => v
  | none => { v with tables := v.tables.set table .empty }

/-- `DELETE FROM {table} WHERE rowid = ?`. -/
def deleteEmbedding (v : Vectors F) (table : String) (rowid : Int) : Vectors F :=
  { v with tables := v.tables.update table fun rows => rows.erase rowid }

/-- `INSERT INTO {table}(embedding)`. -/
def insertEmbedding (v : Vectors F) (table : String) (rowid : Int) (embedding : List F) : Vectors F :=
  { v with tables := v.tables.update table fun rows => rows.set rowid embedding }

/-- `DELETE FROM vector_items`, by primary key. -/
def deleteItem (v : Vectors F) (key : ItemKey) : Vectors F := { v with items := v.items.erase key }

/-- `INSERT INTO vector_items`. -/
def insertItem (v : Vectors F) (key : ItemKey) (item : VectorItem) : Vectors F :=
  { v with items := v.items.set key item }

/-- `SELECT item_id FROM vector_items WHERE workspace_id = ? AND area = ? AND vec_table = ? AND
vec_rowid = ?`. -/
def itemAt (v : Vectors F) (workspaceId area table : String) (rowid : Int) : Option String :=
  (v.items.entries.find? fun e => e.1.workspaceId = workspaceId ∧ e.1.area = area ∧
    e.2.vecTable = table ∧ e.2.vecRowid = rowid).map fun e => e.1.itemId

end Vectors

/-! ## The store -/

structure Connection (F : Type) where
  view : Vectors F
  pending : Bool

structure VectorStore (F : Type) where
  committed : Vectors F
  connection : Option (Connection F)

namespace VectorStore

def write (g : Vectors F → Vectors F) (s : VectorStore F) : VectorStore F :=
  { s with connection := s.connection.map fun c => ⟨g c.view, true⟩ }

/-- A statement that defines a table is carried out at once, unless a transaction is open. -/
def define (g : Vectors F → Vectors F) (s : VectorStore F) : VectorStore F :=
  match s.connection with
  | none => s
  | some ⟨view, false⟩ => ⟨g view, some ⟨g view, false⟩⟩
  | some ⟨view, true⟩ => ⟨s.committed, some ⟨g view, true⟩⟩

/-- `database.commit()`. -/
def commit (s : VectorStore F) : VectorStore F :=
  match s.connection with
  | none => s
  | some c => ⟨c.view, some ⟨c.view, false⟩⟩

/-- `database.rollback()`. -/
def rollback (s : VectorStore F) : VectorStore F :=
  { s with connection := s.connection.map fun _ => ⟨s.committed, false⟩ }

end VectorStore

abbrev VectorMethod (F α : Type) := Call (VectorStore F) StorageError α

/-- `_db`, and what the connection sees. -/
def database : VectorMethod F (Vectors F) :=
  Call.query fun s => match s.connection with
    | none => .error (.refused "LOCAL_KEY_UNAVAILABLE")
    | some c => .ok c.view

def driverRaises (fault : Option String) : VectorMethod F PUnit :=
  match fault with
  | none => pure ⟨⟩
  | some name => Call.raise (.driver name)

/-- A statement of a transaction, which fails as well when a constraint does not admit it. -/
def statement (fails : Bool) (admits : Vectors F → Bool) (g : Vectors F → Vectors F) :
    VectorMethod F PUnit := do
  let view ← database
  Call.ensure (fails = false ∧ admits view = true) (.driver "DatabaseError")
  Call.modify (VectorStore.write g)

/-- `except sqlite.DatabaseError`. -/
def orRollback {α : Type} (code : String) (x : VectorMethod F α) : VectorMethod F α := fun s =>
  match x s with
  | (.ok a, s') => (.ok a, s')
  | (.error _, s') => (.error (.refused code), s'.rollback)

/-! ## Checks -/

/-- What `embedding MATCH ? AND k = ? ORDER BY distance` answers: row ids of the table, at most `k` and
none twice. -/
structure Nearest (F : Type) where
  query : Dict Int (List F) → List F → Nat → List Int
  mem_keys : ∀ {rows embedding k rowid}, rowid ∈ query rows embedding k → rowid ∈ rows.keys
  nodup : ∀ rows embedding k, (query rows embedding k).Nodup
  length_le : ∀ rows embedding k, (query rows embedding k).length ≤ k

/-- The rows that have been there for longest. -/
instance : Inhabited (Nearest F) where
  default :=
    { query := fun rows _ k => rows.keys.take k
      mem_keys := List.mem_of_mem_take
      nodup := fun rows _ _ => rows.nodup.sublist (List.take_sublist ..)
      length_le := fun _ _ _ => List.length_take_le .. }

/-- The check of `_validate_embedding` on a number, the hexadecimal SHA-256 and the query. -/
structure VectorEnv (F : Type) where
  inFloat32 : F → Bool
  sha256 : String → String
  nearest : Nearest F

def isArea (area : String) : Bool := ["source", "artifact", "cache", "index"].contains area

/-- `_scope`. -/
def vectorScope (workspaceId area : String) : VectorMethod F PUnit :=
  Call.ensure (isWorkspaceId workspaceId = true ∧ isArea area = true) (.refused "LOCAL_SCOPE_INVALID")

def validateEmbedding (env : VectorEnv F) (embedding : List F) : VectorMethod F PUnit :=
  Call.ensure (embedding ≠ [] ∧ embedding.all env.inFloat32 = true) (.refused "LOCAL_VECTOR_INVALID")

def tableName (env : VectorEnv F) (workspaceId area : String) (dimension : Nat) : String :=
  "vec_" ++ String.ofList ((env.sha256 (workspaceId ++ "|" ++ area)).toList.take 24) ++ "_" ++
    toString dimension

def vectorTable (env : VectorEnv F) (fault : Option String) (workspaceId area : String) (dimension : Nat) :
    VectorMethod F String := do
  Call.ensure (1 ≤ dimension ∧ dimension ≤ 4096) (.refused "LOCAL_VECTOR_INVALID")
  let _ ← database
  driverRaises fault
  Call.modify (VectorStore.define fun v => v.createTable (tableName env workspaceId area dimension))
  return tableName env workspaceId area dimension

/-! ## `put_vector` -/

/-- The arguments of `put_vector`. -/
structure VectorPut (F : Type) where
  workspaceId : String
  area : String
  itemId : String
  embedding : List F
  modelDigest : String
  artifactDigest : String
  embeddingVersion : String
  sourceVersion : String
  objectVersion : String

namespace VectorPut

def key (a : VectorPut F) : ItemKey := ⟨a.workspaceId, a.area, a.itemId⟩

/-- The row that is inserted; `_KEY_VERSION` is 1. -/
def item (a : VectorPut F) (table : String) (rowid : Int) : VectorItem :=
  ⟨table, rowid, a.embedding.length, "cosine", 1, a.modelDigest, a.artifactDigest, a.embeddingVersion,
    a.sourceVersion, a.objectVersion⟩

/-- The checks on the arguments besides the scope and the numbers of the embedding. -/
def Valid (a : VectorPut F) : Prop :=
  a.itemId ≠ "" ∧ a.itemId.length ≤ 256 ∧ a.embedding ≠ [] ∧ isDigest a.modelDigest = true ∧
    isDigest a.artifactDigest = true ∧
    ∀ value ∈ [a.embeddingVersion, a.sourceVersion, a.objectVersion],
      1 ≤ value.length ∧ value.length ≤ 128

instance (a : VectorPut F) : Decidable a.Valid :=
  inferInstanceAs (Decidable (_ ∧ _ ∧ _ ∧ _))

end VectorPut

/-- How the driver behaves in one `put_vector`: what it raises before the transaction, the statements of
the transaction that fail, and the row id that the vector table gives. -/
structure PutFaults where
  create : Option String := none
  prior : Option String := none
  deleteEmbedding : Bool := false
  deleteItem : Bool := false
  insertEmbedding : Bool := false
  insertItem : Bool := false
  commit : Bool := false
  rowid : Int
  deriving DecidableEq

def deletePrior (faults : PutFaults) (key : ItemKey) (prior : Option VectorItem) : VectorMethod F PUnit :=
  match prior with
  | none => pure ⟨⟩
  | some item => do
    statement faults.deleteEmbedding (fun v => (v.tables.get? item.vecTable).isSome)
      fun v => v.deleteEmbedding item.vecTable item.vecRowid
    statement faults.deleteItem (fun _ => true) fun v => v.deleteItem key

/-- The insertion of the embedding and of its item. A table gives no row id that it has in use. -/
def insertVector (faults : PutFaults) (a : VectorPut F) (table : String) : VectorMethod F PUnit := do
  statement faults.insertEmbedding
    (fun v => (v.tables.get? table).isSome && (v.embedding? table faults.rowid).isNone)
    fun v => v.insertEmbedding table faults.rowid a.embedding
  statement faults.insertItem (fun v => (v.items.get? a.key).isNone)
    fun v => v.insertItem a.key (a.item table faults.rowid)

/-- The statements in the `try` block. -/
def replaceVector (faults : PutFaults) (a : VectorPut F) (table : String) (prior : Option VectorItem) :
    VectorMethod F PUnit := do
  deletePrior faults a.key prior
  insertVector faults a table
  Call.ensure (faults.commit = false) (.driver "DatabaseError")
  Call.modify VectorStore.commit

def putVector (env : VectorEnv F) (faults : PutFaults) (a : VectorPut F) : VectorMethod F PUnit := do
  vectorScope a.workspaceId a.area
  validateEmbedding env a.embedding
  Call.ensure a.Valid (.refused "LOCAL_VECTOR_INVALID")
  let _ ← database
  let table ← vectorTable env faults.create a.workspaceId a.area a.embedding.length
  driverRaises faults.prior
  let view ← database
  orRollback "LOCAL_VECTOR_WRITE_FAILED" (replaceVector faults a table (view.items.get? a.key))

/-- The arguments of `search_vectors`. -/
structure VectorSearch (F : Type) where
  workspaceId : String
  area : String
  embedding : List F
  limit : Int

/-- What the driver raises in one `search_vectors`. -/
structure SearchFaults where
  create : Option String := none
  rows : Option String := none
  item : Option String := none
  deriving DecidableEq

def searchVectors (env : VectorEnv F) (faults : SearchFaults) (a : VectorSearch F) :
    VectorMethod F (List String) := do
  vectorScope a.workspaceId a.area
  validateEmbedding env a.embedding
  Call.ensure (1 ≤ a.limit ∧ a.limit ≤ 100) (.refused "LOCAL_VECTOR_INVALID")
  let _ ← database
  let table ← vectorTable env faults.create a.workspaceId a.area a.embedding.length
  driverRaises faults.rows
  let view ← database
  driverRaises faults.item
  return match view.tables.get? table with
    | none => []
    | some rows => (env.nearest.query rows a.embedding a.limit.toNat).filterMap fun rowid =>
        view.itemAt a.workspaceId a.area table rowid

/-- The methods, the locking and opening of the store, and what other methods do: leave a transaction
open, and end it. -/
inductive VectorInput (F : Type) where
  | put (a : VectorPut F) (faults : PutFaults)
  | search (a : VectorSearch F) (faults : SearchFaults)
  | lock
  | unlock
  | leaveOpen
  | settle (commits : Bool)

inductive VectorReply where
  | done
  | items (ids : List String)
  deriving DecidableEq

namespace VectorStore

def unlock (s : VectorStore F) : VectorStore F :=
  { s with connection := some (s.connection.getD ⟨s.committed, false⟩) }

/-- `lock`: closing the connection rolls back. -/
def lock (s : VectorStore F) : VectorStore F := { s with connection := none }

def settle (commits : Bool) (s : VectorStore F) : VectorStore F := if commits then s.commit else s.rollback

end VectorStore

def performVector (env : VectorEnv F) : VectorInput F → VectorMethod F VectorReply
  | .put a faults => (fun _ => .done) <$> putVector env faults a
  | .search a faults => VectorReply.items <$> searchVectors env faults a
  | .lock => (fun _ => .done) <$> Call.modify VectorStore.lock
  | .unlock => (fun _ => .done) <$> Call.modify VectorStore.unlock
  | .leaveOpen => (fun _ => .done) <$> Call.modify (VectorStore.write id)
  | .settle commits => (fun _ => .done) <$> Call.modify (VectorStore.settle commits)

def vectorStore (env : VectorEnv F) :
    Machine (VectorStore F) (VectorInput F) (Except StorageError VectorReply) where
  init := { committed := ⟨.empty, .empty⟩, connection := none }
  step s i := performVector env i s

/-! ## Slots of the items -/

namespace Vectors

variable {v : Vectors F} {table table' : String} {rowid rowid' : Int} {embedding : List F} {key : ItemKey}

def slot (v : Vectors F) (key : ItemKey) : Option (String × Int) :=
  (v.items.get? key).map fun item => (item.vecTable, item.vecRowid)

def taken (v : Vectors F) : Set (String × Int) := {place | v.embedding? place.1 place.2 ≠ none}

theorem embedding?_createTable :
    (v.createTable table).embedding? table' rowid = v.embedding? table' rowid := by
  unfold createTable
  cases h : v.tables.get? table with
  | some rows => rfl
  | none =>
    simp only [embedding?, Dict.get?_set]
    split
    · next heq =>
      subst heq
      rw [h]
      rfl
    · rfl

@[simp] theorem items_createTable : (v.createTable table).items = v.items := by
  unfold createTable
  split <;> rfl

theorem embedding?_deleteEmbedding :
    (v.deleteEmbedding table rowid).embedding? table' rowid' =
      if (table', rowid') = (table, rowid) then none else v.embedding? table' rowid' := by
  simp only [embedding?, deleteEmbedding, Dict.get?_update, Prod.mk.injEq]
  by_cases htable : table = table'
  · subst htable
    cases v.tables.get? table with
    | none => simp
    | some rows =>
      simp only [if_true, Option.map_some, Option.bind_some, Dict.get?_erase, true_and, eq_comm]
  · rw [if_neg htable, if_neg fun h => htable h.1.symm]

theorem embedding?_insertEmbedding (h : (v.tables.get? table).isSome = true) :
    (v.insertEmbedding table rowid embedding).embedding? table' rowid' =
      if (table', rowid') = (table, rowid) then some embedding else v.embedding? table' rowid' := by
  simp only [embedding?, insertEmbedding, Dict.get?_update, Prod.mk.injEq]
  by_cases htable : table = table'
  · subst htable
    obtain ⟨rows, hrows⟩ := Option.isSome_iff_exists.1 h
    simp only [hrows, if_true, Option.map_some, Option.bind_some, Dict.get?_set, true_and, eq_comm]
  · rw [if_neg htable, if_neg fun h => htable h.1.symm]

end Vectors

/-- The items are the rows of the vector tables, each in the table of its own workspace, area and
dimension. -/
structure SoundVectors (env : VectorEnv F) (v : Vectors F) : Prop where
  slots : Slots v.slot v.taken
  named : ∀ {key item}, v.items.get? key = some item →
    item.vecTable = tableName env key.workspaceId key.area item.dimension

def Vectors.dimension? (v : Vectors F) (key : ItemKey) : Option Nat :=
  (v.items.get? key).map (·.dimension)

/-- Two states of the tables have the same items and embeddings. -/
structure SameVectors (v w : Vectors F) : Prop where
  items : w.items = v.items
  embedding? : ∀ table rowid, w.embedding? table rowid = v.embedding? table rowid

section Sound

variable {env : VectorEnv F} {v w : Vectors F} {key : ItemKey} {item : VectorItem}

theorem SameVectors.refl (v : Vectors F) : SameVectors v v := ⟨rfl, fun _ _ => rfl⟩

theorem SameVectors.createTable (h : SameVectors v w) (table : String) :
    SameVectors v (w.createTable table) :=
  ⟨Vectors.items_createTable.trans h.items,
    fun _ _ => Vectors.embedding?_createTable.trans (h.embedding? _ _)⟩

theorem SameVectors.symm (h : SameVectors v w) : SameVectors w v :=
  ⟨h.items.symm, fun table rowid => (h.embedding? table rowid).symm⟩

theorem SameVectors.trans {u : Vectors F} (h : SameVectors v w) (h' : SameVectors w u) : SameVectors v u :=
  ⟨h'.items.trans h.items, fun table rowid => (h'.embedding? table rowid).trans (h.embedding? table rowid)⟩

theorem SameVectors.dimension?_eq (h : SameVectors v w) (key : ItemKey) :
    w.dimension? key = v.dimension? key := by
  rw [Vectors.dimension?, h.items, Vectors.dimension?]

theorem SameVectors.slot_eq (h : SameVectors v w) : w.slot = v.slot := by
  funext key
  rw [Vectors.slot, h.items, Vectors.slot]

theorem SameVectors.taken_eq (h : SameVectors v w) : w.taken = v.taken := by
  unfold Vectors.taken
  simp only [h.embedding?]

theorem SoundVectors.same (hv : SoundVectors env v) (h : SameVectors v w) : SoundVectors env w := by
  refine ⟨?_, fun hitem => hv.named (by rwa [← h.items])⟩
  rw [h.slot_eq, h.taken_eq]
  exact hv.slots

theorem sound_empty : SoundVectors env (⟨.empty, .empty⟩ : Vectors F) := by
  refine ⟨⟨fun place => ?_, fun h => ?_⟩, fun h => ?_⟩
  · simp [Vectors.taken, Vectors.embedding?, Vectors.slot]
  · simp [Vectors.slot] at h
  · simp at h

theorem SoundVectors.delete (hv : SoundVectors env v) (hitem : v.items.get? key = some item) :
    SoundVectors env ((v.deleteEmbedding item.vecTable item.vecRowid).deleteItem key) := by
  have hget : ∀ k, ((v.deleteEmbedding item.vecTable item.vecRowid).deleteItem key).items.get? k =
      if key = k then none else v.items.get? k := fun k => Dict.get?_erase v.items key k
  refine ⟨?_, fun {k _} hk => ?_⟩
  · refine hv.slots.release (k := key) (s := (item.vecTable, item.vecRowid)) ?_ ?_ (fun k hk => ?_)
      fun place => ?_
    · rw [Vectors.slot, hitem]
      rfl
    · rw [Vectors.slot, hget, if_pos rfl]
      rfl
    · rw [Vectors.slot, hget, if_neg hk.symm]
      rfl
    · change Vectors.embedding? (v.deleteEmbedding _ _) place.1 place.2 ≠ none ↔ _
      rw [Vectors.embedding?_deleteEmbedding]
      by_cases hplace : place = (item.vecTable, item.vecRowid)
      · simp [hplace]
      · simp [hplace, Vectors.taken]
  · rw [hget] at hk
    split at hk
    · cases hk
    · exact hv.named hk

theorem SoundVectors.insert (hv : SoundVectors env v) (item : VectorItem) {embedding : List F}
    (htable : (v.tables.get? item.vecTable).isSome = true)
    (hfree : v.embedding? item.vecTable item.vecRowid = none) (hnone : v.items.get? key = none)
    (hnamed : item.vecTable = tableName env key.workspaceId key.area item.dimension) :
    SoundVectors env ((v.insertEmbedding item.vecTable item.vecRowid embedding).insertItem key item) := by
  have hget : ∀ k, ((v.insertEmbedding item.vecTable item.vecRowid embedding).insertItem key item).items.get? k =
      if key = k then some item else v.items.get? k := fun k => Dict.get?_set v.items key k item
  refine ⟨?_, fun {k _} hk => ?_⟩
  · refine hv.slots.take (k := key) (s := (item.vecTable, item.vecRowid)) (fun h => h hfree) ?_ ?_
      (fun k hk => ?_) fun place => ?_
    · rw [Vectors.slot, hnone]
      rfl
    · rw [Vectors.slot, hget, if_pos rfl]
      rfl
    · rw [Vectors.slot, hget, if_neg hk.symm]
      rfl
    · change Vectors.embedding? (v.insertEmbedding _ _ _) place.1 place.2 ≠ none ↔ _
      rw [Vectors.embedding?_insertEmbedding htable]
      by_cases hplace : place = (item.vecTable, item.vecRowid)
      · simp [hplace]
      · simp [hplace, Vectors.taken]
  · rw [hget] at hk
    split at hk
    · next heq =>
      subst heq
      rw [← Option.some.inj hk]
      exact hnamed
    · exact hv.named hk

end Sound

/-! ## What the methods leave -/

/-- The connection sees what is in the file. -/
structure Clean (env : VectorEnv F) (s : VectorStore F) : Prop where
  sound : SoundVectors env s.committed
  same : ∀ c ∈ s.connection, SameVectors s.committed c.view

section Posts

variable {env : VectorEnv F} {s : VectorStore F} {v committed : Vectors F} {pending : Bool} {α : Type}
  {Q : Except StorageError α → VectorStore F → Prop} {f : PUnit → VectorMethod F α} {key : ItemKey}

theorem Clean.define (h : Clean env s) (table : String) :
    Clean env (s.define fun v => v.createTable table) := by
  obtain ⟨committed, _ | ⟨view, _ | _⟩⟩ := s
  · exact h
  · have hsame : SameVectors committed (view.createTable table) := (h.same _ rfl).createTable table
    refine ⟨h.sound.same hsame, fun c hc => ?_⟩
    obtain rfl := Option.some.inj hc
    exact SameVectors.refl _
  · refine ⟨h.sound, fun c hc => ?_⟩
    obtain rfl := Option.some.inj hc
    exact (h.same _ rfl).createTable table

theorem Clean.same_define (h : Clean env s) (table : String) :
    SameVectors s.committed (s.define fun v => v.createTable table).committed := by
  obtain ⟨committed, _ | ⟨view, _ | _⟩⟩ := s
  · exact SameVectors.refl _
  · exact (h.same _ rfl).createTable table
  · exact SameVectors.refl _

theorem post_database {f : Vectors F → VectorMethod F α} (herror : ∀ e, Q (.error e) s)
    (hok : ∀ view pending, s.connection = some ⟨view, pending⟩ → Call.Post (f view) s Q) :
    Call.Post (database >>= f) s Q := by
  refine Call.post_query (fun e _ => herror e) fun view hview => ?_
  obtain ⟨committed, _ | ⟨view', pending⟩⟩ := s
  · cases hview
  · obtain rfl := Except.ok.inj hview
    exact hok _ pending rfl

theorem post_driverRaises {fault : Option String} (herror : ∀ e, Q (.error e) s)
    (hok : Call.Post (f ⟨⟩) s Q) : Call.Post (driverRaises fault >>= f) s Q := by
  cases fault with
  | none => exact hok
  | some name => exact herror _

theorem post_vectorTable {fault : Option String} {workspaceId area : String} {dimension : Nat}
    {f : String → VectorMethod F α} (herror : ∀ e, Q (.error e) s)
    (hok : Call.Post (f (tableName env workspaceId area dimension))
      (s.define fun v => v.createTable (tableName env workspaceId area dimension)) Q) :
    Call.Post (vectorTable env fault workspaceId area dimension >>= f) s Q := by
  simp only [vectorTable, Call.bind_assoc]
  refine Call.post_ensure (fun _ => herror _) fun _ => ?_
  refine post_database herror fun view pending _ => ?_
  exact post_driverRaises herror hok

theorem post_statement {fails : Bool} {admits : Vectors F → Bool} {g : Vectors F → Vectors F}
    (herror : ∀ e c, Q (.error e) ⟨committed, c⟩)
    (hok : admits v = true → Call.Post (f ⟨⟩) ⟨committed, some ⟨g v, true⟩⟩ Q) :
    Call.Post (statement fails admits g >>= f) ⟨committed, some ⟨v, pending⟩⟩ Q := by
  simp only [statement, Call.bind_assoc]
  refine post_database (fun e => herror e _) fun view pending' hview => ?_
  obtain ⟨rfl, rfl⟩ := Connection.mk.inj (Option.some.inj hview)
  exact Call.post_ensure (fun _ => herror _ _) fun h => hok h.2

theorem post_deletePrior {faults : PutFaults} (hv : SoundVectors env v)
    (herror : ∀ e c, Q (.error e) ⟨committed, c⟩)
    (hok : ∀ w pending', SoundVectors env w → w.items.get? key = none →
      (∀ k, k ≠ key → w.items.get? k = v.items.get? k) →
      Call.Post (f ⟨⟩) ⟨committed, some ⟨w, pending'⟩⟩ Q) :
    Call.Post (deletePrior faults key (v.items.get? key) >>= f) ⟨committed, some ⟨v, pending⟩⟩ Q := by
  cases hitem : v.items.get? key with
  | none => exact hok v pending hv hitem fun _ _ => rfl
  | some item =>
    simp only [deletePrior, Call.bind_assoc]
    refine post_statement herror fun _ => ?_
    refine post_statement herror fun _ => ?_
    refine hok _ true (hv.delete hitem) ?_ fun k hk => ?_
    · exact (Dict.get?_erase v.items key key).trans (if_pos rfl)
    · exact (Dict.get?_erase v.items key k).trans (if_neg hk.symm)

theorem post_insertVector {faults : PutFaults} {a : VectorPut F} (hv : SoundVectors env v)
    (hnone : v.items.get? a.key = none) (herror : ∀ e c, Q (.error e) ⟨committed, c⟩)
    (hok : ∀ w item, SoundVectors env w → item.dimension = a.embedding.length →
      (∀ k, w.items.get? k = if a.key = k then some item else v.items.get? k) →
      Call.Post (f ⟨⟩) ⟨committed, some ⟨w, true⟩⟩ Q) :
    Call.Post (insertVector faults a (tableName env a.workspaceId a.area a.embedding.length) >>= f)
      ⟨committed, some ⟨v, pending⟩⟩ Q := by
  simp only [insertVector, Call.bind_assoc]
  refine post_statement herror fun hadmits => ?_
  obtain ⟨htable, hfree⟩ := Bool.and_eq_true_iff.1 hadmits
  refine post_statement herror fun _ => ?_
  refine hok _ (a.item (tableName env a.workspaceId a.area a.embedding.length) faults.rowid) ?_ rfl
    fun k => Dict.get?_set ..
  exact hv.insert (a.item _ faults.rowid) htable (Option.isNone_iff_eq_none.1 hfree) hnone rfl

/-- What a method leaves: a clean store whose items have the dimensions `dims`, or, when it raised, those
they had. -/
def Leaves (env : VectorEnv F) (s : VectorStore F) (dims : ItemKey → Option Nat) {α : Type}
    (outcome : Except StorageError α) (s' : VectorStore F) : Prop :=
  Clean env s' ∧ ∀ key, s'.committed.dimension? key = match outcome with
    | .ok _ => dims key
    | .error _ => s.committed.dimension? key

theorem clean_rollback {s' : VectorStore F} (h : SoundVectors env s'.committed) : Clean env s'.rollback := by
  refine ⟨h, fun c hc => ?_⟩
  obtain ⟨_, -, rfl⟩ := Option.mem_map.1 hc
  exact SameVectors.refl _

theorem post_orRollback {code : String} {dims : ItemKey → Option Nat} {x : VectorMethod F α}
    (hs : SoundVectors env s.committed)
    (hx : Call.Post x s fun outcome s' => match outcome with
      | .ok _ => Clean env s' ∧ ∀ key, s'.committed.dimension? key = dims key
      | .error _ => s'.committed = s.committed) :
    Call.Post (orRollback code x) s (Leaves env s dims) := by
  unfold Call.Post orRollback at *
  rcases h : x s with ⟨e | a, s'⟩
  · rw [h] at hx
    have hcommitted : s'.committed = s.committed := hx
    refine ⟨clean_rollback (hcommitted.symm ▸ hs), fun key => ?_⟩
    change s'.committed.dimension? key = _
    rw [hcommitted]
  · rw [h] at hx
    exact hx

/-- An item that `put_vector` has returned for has an embedding of the dimension given, and the others
have those they had. -/
theorem putVector_spec (hs : Clean env s) (faults : PutFaults) (a : VectorPut F) :
    Call.Post (putVector env faults a) s
      (Leaves env s fun key => if a.key = key then some a.embedding.length
        else s.committed.dimension? key) := by
  have hkept : ∀ e : StorageError, Leaves env s (fun key => if a.key = key then some a.embedding.length
      else s.committed.dimension? key) (.error e : Except StorageError PUnit) s :=
    fun _ => ⟨hs, fun _ => rfl⟩
  unfold putVector
  refine Call.post_ensure (fun _ => hkept _) fun _ => ?_
  refine Call.post_ensure (fun _ => hkept _) fun _ => ?_
  refine Call.post_ensure (fun _ => hkept _) fun _ => ?_
  refine post_database hkept fun _ _ _ => ?_
  refine post_vectorTable hkept ?_
  have hclean := hs.define (tableName env a.workspaceId a.area a.embedding.length)
  have hdims := (hs.same_define (tableName env a.workspaceId a.area a.embedding.length)).dimension?_eq
  generalize (s.define fun v =>
    v.createTable (tableName env a.workspaceId a.area a.embedding.length)) = t at hclean hdims ⊢
  have hkept' : ∀ e : StorageError, Leaves env s (fun key => if a.key = key then some a.embedding.length
      else s.committed.dimension? key) (.error e : Except StorageError PUnit) t :=
    fun _ => ⟨hclean, hdims⟩
  refine post_driverRaises hkept' ?_
  refine post_database hkept' fun view pending hview => ?_
  refine Call.Post.mono (Q := Leaves env t fun key => if a.key = key then some a.embedding.length
      else t.committed.dimension? key) (post_orRollback hclean.sound ?_) ?_
  · obtain ⟨committed, connection⟩ := t
    subst hview
    have hsame : SameVectors committed view := hclean.same _ rfl
    refine post_deletePrior (hclean.sound.same hsame) (fun _ _ => rfl) fun w pending' hw hnone hothers => ?_
    refine post_insertVector hw hnone (fun _ _ => rfl) fun w' item hw' hdimension hitems => ?_
    refine Call.post_ensure (fun _ => rfl) fun _ => ?_
    refine ⟨⟨hw', fun c hc => ?_⟩, fun key => ?_⟩
    · obtain rfl := Option.some.inj hc
      exact SameVectors.refl _
    · change w'.dimension? key = _
      rw [Vectors.dimension?, hitems]
      by_cases hkey : a.key = key
      · rw [if_pos hkey, if_pos hkey, Option.map_some, hdimension]
      · rw [if_neg hkey, if_neg hkey, hothers key (Ne.symm hkey), hsame.items]
        rfl
  · rintro (e | _) s' ⟨hclean', hdims'⟩
    · exact ⟨hclean', fun key => (hdims' key).trans (hdims key)⟩
    · refine ⟨hclean', fun key => (hdims' key).trans ?_⟩
      change (if a.key = key then _ else t.committed.dimension? key) = _
      rw [hdims]

end Posts

section Search

variable {env : VectorEnv F} {s : VectorStore F} {v : Vectors F}

theorem itemAt_eq_some {workspaceId area table itemId : String} {rowid : Int}
    (h : v.itemAt workspaceId area table rowid = some itemId) :
    ∃ item, v.items.get? ⟨workspaceId, area, itemId⟩ = some item ∧ item.vecTable = table ∧
      item.vecRowid = rowid := by
  obtain ⟨⟨key, item⟩, hfind, rfl⟩ := Option.map_eq_some_iff.1 h
  have hcolumns : key.workspaceId = workspaceId ∧ key.area = area ∧ item.vecTable = table ∧
      item.vecRowid = rowid := by
    simpa using List.find?_some hfind
  obtain ⟨rfl, rfl, htable, hrowid⟩ := hcolumns
  exact ⟨item, Dict.mem_entries_iff.1 (List.mem_of_find?_eq_some hfind), htable, hrowid⟩

theorem tableName_inj {workspaceId area : String} {dimension dimension' : Nat}
    (h : tableName env workspaceId area dimension = tableName env workspaceId area dimension') :
    dimension = dimension' := by
  have hdigits : Nat.toDigits 10 dimension = Nat.toDigits 10 dimension' :=
    String.ofList_injective ((String.append_right_inj _).1 h)
  rw [← Nat.ofDigitChars_toDigits (b := 10) (n := dimension) (by decide) (by decide), hdigits,
    Nat.ofDigitChars_toDigits (by decide) (by decide)]

/-- What a search answers: at most `limit` items, each once, of the workspace, the area and the dimension
that it asks for. -/
def Answers (v : Vectors F) (a : VectorSearch F) (ids : List String) : Prop :=
  ids.Nodup ∧ (ids.length : Int) ≤ a.limit ∧ ∀ itemId ∈ ids, ∃ item,
    v.items.get? ⟨a.workspaceId, a.area, itemId⟩ = some item ∧ item.dimension = a.embedding.length

theorem answers_query (hv : SoundVectors env v) {a : VectorSearch F} (hlimit : 1 ≤ a.limit)
    (rows : Dict Int (List F)) :
    Answers v a ((env.nearest.query rows a.embedding a.limit.toNat).filterMap fun rowid =>
      v.itemAt a.workspaceId a.area (tableName env a.workspaceId a.area a.embedding.length) rowid) := by
  refine ⟨(env.nearest.nodup _ _ _).filterMap fun rowid rowid' itemId h h' => ?_, ?_, fun itemId h => ?_⟩
  · obtain ⟨item, hitem, -, rfl⟩ := itemAt_eq_some h
    obtain ⟨item', hitem', -, rfl⟩ := itemAt_eq_some h'
    rw [hitem] at hitem'
    rw [Option.some.inj hitem']
  · have hlength := (List.length_filterMap_le (fun rowid => v.itemAt a.workspaceId a.area
      (tableName env a.workspaceId a.area a.embedding.length) rowid)
      (env.nearest.query rows a.embedding a.limit.toNat)).trans (env.nearest.length_le ..)
    omega
  · obtain ⟨rowid, -, hat⟩ := List.mem_filterMap.1 h
    obtain ⟨item, hitem, htable, -⟩ := itemAt_eq_some hat
    exact ⟨item, hitem, tableName_inj ((hv.named hitem).symm.trans htable)⟩

theorem Answers.same {w : Vectors F} {a : VectorSearch F} {ids : List String} (h : Answers v a ids)
    (hsame : SameVectors v w) : Answers w a ids := by
  refine ⟨h.1, h.2.1, fun itemId hitem => ?_⟩
  rw [hsame.items]
  exact h.2.2 itemId hitem

theorem searchVectors_spec (hs : Clean env s) (faults : SearchFaults) (a : VectorSearch F) :
    Call.Post (searchVectors env faults a) s fun outcome s' =>
      Clean env s' ∧ SameVectors s.committed s'.committed ∧
        ∀ ids, outcome = .ok ids → Answers s.committed a ids := by
  have hraised : ∀ (e : StorageError) (ids : List String),
      (.error e : Except StorageError (List String)) = .ok ids → Answers s.committed a ids :=
    fun _ _ h => by cases h
  unfold searchVectors
  refine Call.post_ensure (fun _ => ⟨hs, SameVectors.refl _, hraised _⟩) fun _ => ?_
  refine Call.post_ensure (fun _ => ⟨hs, SameVectors.refl _, hraised _⟩) fun _ => ?_
  refine Call.post_ensure (fun _ => ⟨hs, SameVectors.refl _, hraised _⟩) fun hlimit => ?_
  refine post_database (fun _ => ⟨hs, SameVectors.refl _, hraised _⟩) fun _ _ _ => ?_
  refine post_vectorTable (fun _ => ⟨hs, SameVectors.refl _, hraised _⟩) ?_
  have hclean := hs.define (tableName env a.workspaceId a.area a.embedding.length)
  have hdefined := hs.same_define (tableName env a.workspaceId a.area a.embedding.length)
  generalize (s.define fun v =>
    v.createTable (tableName env a.workspaceId a.area a.embedding.length)) = t at hclean hdefined ⊢
  refine post_driverRaises (fun _ => ⟨hclean, hdefined, hraised _⟩) ?_
  refine post_database (fun _ => ⟨hclean, hdefined, hraised _⟩) fun view pending hview => ?_
  refine post_driverRaises (fun _ => ⟨hclean, hdefined, hraised _⟩) ⟨hclean, hdefined, fun ids hids => ?_⟩
  have hsame : SameVectors s.committed view := hdefined.trans (hclean.same _ hview)
  refine Answers.same ?_ hsame.symm
  rw [← Except.ok.inj hids]
  cases view.tables.get? (tableName env a.workspaceId a.area a.embedding.length) with
  | none => exact ⟨List.nodup_nil, by simp only [List.length_nil]; omega, by simp⟩
  | some rows => exact answers_query (hs.sound.same hsame) hlimit.1 rows

end Search

/-! ## Runs -/

def storedDimension (key : ItemKey)
    (e : Event (VectorStore F) (VectorInput F) (Except StorageError VectorReply)) : Option Nat :=
  match e.input, e.output with
  | .put a _, .ok _ => if a.key = key then some a.embedding.length else none
  | _, _ => none

def latestDimension (key : ItemKey)
    (events : List (Event (VectorStore F) (VectorInput F) (Except StorageError VectorReply))) : Option Nat :=
  (events.filterMap (storedDimension key)).getLast?

section Runs

variable {env : VectorEnv F} {s : VectorStore F}

theorem clean_write (hs : Clean env s) : Clean env (s.write id) := by
  refine ⟨hs.sound, fun c hc => ?_⟩
  obtain ⟨c', hc', rfl⟩ := Option.mem_map.1 hc
  exact hs.same c' hc'

theorem clean_commit (hs : Clean env s) : Clean env s.commit ∧ s.commit.committed.items = s.committed.items := by
  obtain ⟨committed, _ | ⟨view, pending⟩⟩ := s
  · exact ⟨hs, rfl⟩
  · have hsame : SameVectors committed view := hs.same _ rfl
    refine ⟨⟨hs.sound.same hsame, fun c hc => ?_⟩, hsame.items⟩
    obtain rfl := Option.some.inj hc
    exact SameVectors.refl _

theorem clean_unlock (hs : Clean env s) : Clean env s.unlock := by
  refine ⟨hs.sound, fun c hc => ?_⟩
  obtain ⟨committed, _ | c'⟩ := s
  · obtain rfl := Option.some.inj hc
    exact SameVectors.refl _
  · obtain rfl := Option.some.inj hc
    exact hs.same _ rfl

theorem next_leaves (hs : Clean env s) (i : VectorInput F) :
    Clean env ((vectorStore env).next s i) ∧ ∀ key, ((vectorStore env).next s i).committed.dimension? key =
      (storedDimension key ((vectorStore env).event s i)).or (s.committed.dimension? key) := by
  cases i with
  | put a faults =>
    have hpost := putVector_spec hs faults a
    simp only [Machine.next, Machine.event, Machine.answer, vectorStore, performVector, Call.map_apply]
    unfold Call.Post at hpost
    rcases h : putVector env faults a s with ⟨e | _, s'⟩
    · rw [h] at hpost
      exact hpost
    · rw [h] at hpost
      refine ⟨hpost.1, fun key => (hpost.2 key).trans ?_⟩
      by_cases hkey : a.key = key <;> simp [storedDimension, hkey, Except.map]
  | search a faults =>
    have hpost := searchVectors_spec hs faults a
    simp only [Machine.next, vectorStore, performVector, Call.map_apply]
    exact ⟨hpost.1, hpost.2.1.dimension?_eq⟩
  | lock => exact ⟨⟨hs.sound, by simp [Machine.next, vectorStore, performVector, Call.map_apply,
      Call.modify, VectorStore.lock]⟩, fun _ => rfl⟩
  | unlock => exact ⟨clean_unlock hs, fun _ => rfl⟩
  | leaveOpen => exact ⟨clean_write hs, fun _ => rfl⟩
  | settle commits =>
    cases commits with
    | false => exact ⟨clean_rollback hs.sound, fun _ => rfl⟩
    | true =>
      refine ⟨(clean_commit hs).1, fun key => ?_⟩
      change s.commit.committed.dimension? key = _
      rw [Vectors.dimension?, (clean_commit hs).2]
      rfl

theorem clean_run (env : VectorEnv F) (is : List (VectorInput F)) :
    Clean env ((vectorStore env).run is) ∧ ∀ key, ((vectorStore env).run is).committed.dimension? key =
      latestDimension key ((vectorStore env).events is) := by
  refine (vectorStore env).history_induction
    (J := fun events s => Clean env s ∧ ∀ key, s.committed.dimension? key = latestDimension key events)
    ⟨⟨sound_empty, fun c hc => by cases hc⟩, fun _ => rfl⟩ ?_ is
  rintro events s i ⟨hclean, hdims⟩
  obtain ⟨hclean', hdims'⟩ := next_leaves hclean i
  refine ⟨hclean', fun key => ?_⟩
  rw [hdims', hdims, latestDimension, latestDimension, List.filterMap_append, List.getLast?_append]
  congr 1
  cases h : storedDimension key ((vectorStore env).event s i) <;> simp [h]

/-- What the file holds, or what the connection sees. -/
def VectorStore.Shows (s : VectorStore F) (v : Vectors F) : Prop :=
  v = s.committed ∨ ∃ c ∈ s.connection, v = c.view

theorem Clean.shows (hs : Clean env s) {v : Vectors F} (hv : s.Shows v) : SameVectors s.committed v := by
  rcases hv with rfl | ⟨c, hc, rfl⟩
  · exact SameVectors.refl _
  · exact hs.same c hc

end Runs

end DaonUser.LocalStorage
