import DaonUser.Base
import DaonUser.Lib.Utf8
import Mathlib.Data.List.Infix

/-!
# The offline bridge: paths of the requests to the cloud

The path builders check every identifier with `safe_id`, and `NativeOfflineCloudClient::execute` refuses a
path before it sends anything. The paths of the knowledge and sync operations are made of segments, and pass;
the two reads of `refresh_provider_settings` hold a query, which `execute` refuses for every workspace
(`path_lawful_iff`).
-/

namespace DaonUser.OfflineBridge

open Lib

/-! ## Identifiers -/

/-- `byte.is_ascii_alphanumeric()`. -/
def isAsciiAlphanumeric (byte : UInt8) : Bool :=
  (48 ≤ byte && byte ≤ 57) || (65 ≤ byte && byte ≤ 90) || (97 ≤ byte && byte ≤ 122)

def safeId (value : String) : Bool :=
  let bytes := utf8 value.toList
  !bytes.isEmpty && decide (bytes.length ≤ 256) && bytes.zipIdx.all fun (byte, index) =>
    isAsciiAlphanumeric byte || (decide (0 < index) && [46, 95, 58, 45].contains byte)

inductive OfflineSyncError where
  | inputInvalid
  deriving DecidableEq

def OfflineSyncError.code : OfflineSyncError → String
  | .inputInvalid => "OFFLINE_SYNC_INPUT_INVALID"

/-! ## Paths -/

def knowledgePath (operation identifier : String) (packageOrCopyId : Option String) :
    Except OfflineSyncError String :=
  if safeId identifier = false ∨ packageOrCopyId.any (!safeId ·) then .error .inputInvalid
  else match operation, packageOrCopyId with
    | "list", none => .ok ("/api/v1/workspaces/" ++ identifier ++ "/knowledge-packages")
    | "provision", some packageId =>
      .ok ("/api/v1/workspaces/" ++ identifier ++ "/knowledge-packages/" ++ packageId ++ "/offline-copies")
    | "content", none => .ok ("/api/v1/offline-knowledge-copies/" ++ identifier ++ "/content")
    | _, _ => .error .inputInvalid

def syncPath (operation identifier : String) (conflictId : Option String) :
    Except OfflineSyncError String :=
  if safeId identifier = false ∨ conflictId.any (!safeId ·) then .error .inputInvalid
  else match operation, conflictId with
    | "preview", none => .ok ("/api/v1/workspaces/" ++ identifier ++ "/sync-operations")
    | "status", none => .ok ("/api/v1/sync-operations/" ++ identifier)
    | "approve", none => .ok ("/api/v1/sync-operations/" ++ identifier ++ "/approve")
    | "transfer", none => .ok ("/api/v1/sync-operations/" ++ identifier ++ "/transfer-batches")
    | "resolve", some conflictId =>
      .ok ("/api/v1/sync-operations/" ++ identifier ++ "/conflicts/" ++ conflictId ++ "/resolution")
    | _, _ => .error .inputInvalid

/-- The path of a read of `refresh_provider_settings`, which checks the workspace first. -/
def settingsPath (resource workspaceId : String) : Except OfflineSyncError String :=
  if safeId workspaceId = false then .error .inputInvalid
  else .ok ("/api/v1/" ++ resource ++ "?workspace_id=" ++ workspaceId)

/-- The requests of the bridge to the cloud, with the identifiers in their paths. -/
inductive Operation where
  | listKnowledge (workspaceId : String)
  | provisionKnowledge (workspaceId packageId : String)
  | knowledgeContent (copyId : String)
  | preview (workspaceId : String)
  | status (operationId : String)
  | approve (operationId : String)
  | transfer (operationId : String)
  | resolve (operationId conflictId : String)
  | modelProfiles (workspaceId : String)
  | modelDeployments (workspaceId : String)
  deriving DecidableEq

namespace Operation

def path : Operation → Except OfflineSyncError String
  | listKnowledge workspaceId => knowledgePath "list" workspaceId none
  | provisionKnowledge workspaceId packageId => knowledgePath "provision" workspaceId (some packageId)
  | knowledgeContent copyId => knowledgePath "content" copyId none
  | preview workspaceId => syncPath "preview" workspaceId none
  | status operationId => syncPath "status" operationId none
  | approve operationId => syncPath "approve" operationId none
  | transfer operationId => syncPath "transfer" operationId none
  | resolve operationId conflictId => syncPath "resolve" operationId (some conflictId)
  | modelProfiles workspaceId => settingsPath "model-profiles" workspaceId
  | modelDeployments workspaceId => settingsPath "model-deployments" workspaceId

def method : Operation → String
  | listKnowledge _ | knowledgeContent _ | status _ | modelProfiles _ | modelDeployments _ => "GET"
  | provisionKnowledge _ _ | preview _ | approve _ | transfer _ | resolve _ _ => "POST"

def identifiers : Operation → List String
  | listKnowledge id | knowledgeContent id | preview id | status id | approve id | transfer id
  | modelProfiles id | modelDeployments id => [id]
  | provisionKnowledge id id' | resolve id id' => [id, id']

/-- The two reads of `refresh_provider_settings`. -/
def ReadsSettings : Operation → Prop
  | modelProfiles _ | modelDeployments _ => True
  | _ => False

end Operation

structure OfflineCloudRequest where
  method : String
  path : String
  body : List UInt8
  idempotencyKey : Option String
  ifMatch : Option String
  workspaceId : Option String
  expectsBinary : Bool

/-- The paths that `execute` lets through. -/
def pathAllowed (path : String) : Bool :=
  !decide (['/', '/'] <:+: path.toList) && path.toList.all fun c => decide (c ∉ ['?', '#', '\r', '\n'])

/-- `NativeOfflineCloudClient::execute`, with what it does with an allowed path as an argument. -/
def execute {ρ : Type} (send : OfflineCloudRequest → Except String ρ) (operation : OfflineCloudRequest) :
    Except String ρ :=
  if pathAllowed operation.path then send operation else .error "OFFLINE_SYNC_REQUEST_FAILED"

/-! ## Segments and queries -/

inductive Part where
  | literal (text : String)
  | identifier (value : String)
  deriving DecidableEq

namespace Part

def text : Part → String
  | literal text => text
  | identifier value => value

def identifier? : Part → Option String
  | literal _ => none
  | identifier value => some value

end Part

namespace Operation

def segments : Operation → List Part
  | listKnowledge workspaceId =>
    [.literal "api", .literal "v1", .literal "workspaces", .identifier workspaceId,
      .literal "knowledge-packages"]
  | provisionKnowledge workspaceId packageId =>
    [.literal "api", .literal "v1", .literal "workspaces", .identifier workspaceId,
      .literal "knowledge-packages", .identifier packageId, .literal "offline-copies"]
  | knowledgeContent copyId =>
    [.literal "api", .literal "v1", .literal "offline-knowledge-copies", .identifier copyId,
      .literal "content"]
  | preview workspaceId =>
    [.literal "api", .literal "v1", .literal "workspaces", .identifier workspaceId,
      .literal "sync-operations"]
  | status operationId =>
    [.literal "api", .literal "v1", .literal "sync-operations", .identifier operationId]
  | approve operationId =>
    [.literal "api", .literal "v1", .literal "sync-operations", .identifier operationId,
      .literal "approve"]
  | transfer operationId =>
    [.literal "api", .literal "v1", .literal "sync-operations", .identifier operationId,
      .literal "transfer-batches"]
  | resolve operationId conflictId =>
    [.literal "api", .literal "v1", .literal "sync-operations", .identifier operationId,
      .literal "conflicts", .identifier conflictId, .literal "resolution"]
  | modelProfiles _ => [.literal "api", .literal "v1", .literal "model-profiles"]
  | modelDeployments _ => [.literal "api", .literal "v1", .literal "model-deployments"]

def query : Operation → List (String × Part)
  | modelProfiles workspaceId | modelDeployments workspaceId => [("workspace_id", .identifier workspaceId)]
  | _ => []

end Operation

def readSegments (path : String) : List String :=
  ((path.toList.takeWhile (· ≠ '?')).splitOn '/').map String.ofList

def readQuery (path : String) : List (List String) :=
  match path.toList.dropWhile (· ≠ '?') with
  | [] => []
  | _ :: items => (items.splitOn '&').map fun item => (item.splitOn '=').map String.ofList

/-- What the bridge relies on of the path of a request. -/
structure PathLawful (op : Operation) : Prop where
  /-- `execute` does not refuse it. -/
  sent : ∃ path, op.path = .ok path ∧ ∀ {ρ : Type} (send : OfflineCloudRequest → Except String ρ)
    (request : OfflineCloudRequest), request.path = path → execute send request = send request
  /-- It is the path of no other request with the same method. -/
  unique : ∀ op' : Operation, (∀ id ∈ op'.identifiers, safeId id = true) →
    op'.method = op.method → op'.path = op.path → op' = op
  /-- Each identifier is one segment or one value of the query. -/
  placed : ∃ path, op.path = .ok path ∧
    readSegments path = "" :: op.segments.map Part.text ∧
    readQuery path = op.query.map (fun item => [item.1, item.2.text]) ∧
    (op.segments ++ op.query.map Prod.snd).filterMap Part.identifier? = op.identifiers

/-- Not empty, and without a character that has a meaning in a path. -/
structure Clean (s : String) : Prop where
  nonempty : s.toList ≠ []
  chars : ∀ c ∈ s.toList, isIdChar c = true

theorem Clean.not_mem {s : String} (h : Clean s) {c : Char} (hc : isIdChar c = false) : c ∉ s.toList := by
  intro hmem
  rw [h.chars c hmem] at hc
  cases hc

theorem clean_of_safeId {s : String} (h : safeId s = true) : Clean s := by
  simp only [safeId, Bool.and_eq_true, Bool.not_eq_true', List.isEmpty_eq_false_iff, decide_eq_true_eq,
    List.all_eq_true] at h
  obtain ⟨⟨hne, -⟩, hall⟩ := h
  have hbyte : ∀ b ∈ utf8 s.toList, (isAsciiAlphanumeric b || [46, 95, 58, 45].contains b) = true := by
    intro b hb
    obtain ⟨i, hi, rfl⟩ := List.getElem_of_mem hb
    have hat := hall ((utf8 s.toList)[i], i) (List.mk_mem_zipIdx_iff_getElem?.2 (List.getElem?_eq_getElem hi))
    simp only [Bool.or_eq_true, Bool.and_eq_true] at hat ⊢
    exact hat.imp_right And.right
  have hascii : ∀ n < 128, (isAsciiAlphanumeric (UInt8.ofNat n) ||
      [46, 95, 58, 45].contains (UInt8.ofNat n)) = true → isIdChar (Char.ofNat n) = true := by
    decide
  have hhigh : ∀ n, 192 ≤ n → n < 256 → (isAsciiAlphanumeric (UInt8.ofNat n) ||
      [46, 95, 58, 45].contains (UInt8.ofNat n)) = false := by
    decide
  refine ⟨fun hnil => hne (by rw [hnil]; rfl), fun c hc => ?_⟩
  have hof : ∀ b ∈ utf8Char c, (isAsciiAlphanumeric b || [46, 95, 58, 45].contains b) = true :=
    fun b hb => hbyte b (List.mem_flatMap.2 ⟨c, hc, hb⟩)
  have hle : c.toNat ≤ 0x10ffff := by
    rcases c.valid with h | h
    · exact Nat.le_of_lt (Nat.lt_trans h (by decide))
    · exact Nat.le_of_lt_succ h.2
  unfold utf8Char at hof
  dsimp only at hof
  split at hof
  · next hlow =>
    have hchar := hascii c.toNat hlow (hof _ (List.mem_singleton_self _))
    rwa [Char.ofNat_toNat] at hchar
  · split at hof
    · have hfirst := hof _ List.mem_cons_self
      rw [hhigh _ (by omega) (by omega)] at hfirst
      cases hfirst
    · split at hof
      · have hfirst := hof _ List.mem_cons_self
        rw [hhigh _ (by omega) (by omega)] at hfirst
        cases hfirst
      · have hfirst := hof _ List.mem_cons_self
        rw [hhigh _ (by omega) (by omega)] at hfirst
        cases hfirst

section Joined

variable {ps : List (List Char)} {rest : List Char}

def joined (ps : List (List Char)) : List Char := ps.flatMap fun p => '/' :: p

theorem splitOn_joined (h : ∀ p ∈ ps, '/' ∉ p) : (joined ps).splitOn '/' = [] :: ps := by
  have hjoined : joined ps = ['/'].intercalate ([] :: ps) := by
    induction ps with
    | nil => rfl
    | cons p ps ih =>
      have hps := ih fun q hq => h q (List.mem_cons_of_mem _ hq)
      rw [joined, List.flatMap_cons, ← joined, hps]
      cases ps with
      | nil => simp [List.intercalate]
      | cons q qs => simp [List.intercalate, List.intersperse]
  rw [hjoined, List.splitOn_intercalate _ _ (List.cons_ne_nil _ _)]
  intro p hp
  rcases List.mem_cons.1 hp with rfl | hp
  · exact List.not_mem_nil
  · exact h p hp

theorem infix_of_append {p : List Char} (hp : '/' ∉ p) (h : ['/', '/'] <:+: p ++ rest) :
    ['/', '/'] <:+: rest := by
  induction p with
  | nil => exact h
  | cons c p ih =>
    rw [List.cons_append, List.infix_cons_iff] at h
    rcases h with hstart | hinfix
    · obtain ⟨heq, -⟩ := List.cons_prefix_cons.1 hstart
      exact absurd heq fun heq => hp (heq ▸ List.mem_cons_self)
    · exact ih (fun hmem => hp (List.mem_cons_of_mem _ hmem)) hinfix

theorem no_double_slash (h : ∀ p ∈ ps, '/' ∉ p) (hne : ∀ p ∈ ps, p ≠ []) :
    ¬['/', '/'] <:+: joined ps := by
  induction ps with
  | nil => simp [joined]
  | cons p ps ih =>
    intro hinfix
    have hp := h p List.mem_cons_self
    obtain ⟨c, cs, rfl⟩ := List.exists_cons_of_ne_nil (hne p List.mem_cons_self)
    rw [joined, List.flatMap_cons, List.cons_append, List.infix_cons_iff] at hinfix
    rcases hinfix with hstart | hinfix
    · obtain ⟨-, htail⟩ := List.cons_prefix_cons.1 hstart
      rw [List.cons_append] at htail
      obtain ⟨heq, -⟩ := List.cons_prefix_cons.1 htail
      exact hp (heq ▸ List.mem_cons_self)
    · exact ih (fun q hq => h q (List.mem_cons_of_mem _ hq)) (fun q hq => hne q (List.mem_cons_of_mem _ hq))
        (infix_of_append hp hinfix)

end Joined

/-! ## The text of a path -/

namespace Operation

def chars (op : Operation) : List Char :=
  joined (op.segments.map (·.text.toList)) ++
    op.query.flatMap fun item => '?' :: item.1.toList ++ '=' :: item.2.text.toList

theorem path_eq (op : Operation) (h : ∀ id ∈ op.identifiers, safeId id = true) :
    op.path = .ok (String.ofList op.chars) := by
  have hone : ∀ w : String, (∀ id ∈ [w], safeId id = true) →
      ¬(safeId w = false ∨ (none : Option String).any (!safeId ·) = true) := by
    intro w hw
    simp [hw w (List.mem_singleton_self w)]
  have htwo : ∀ w v : String, (∀ id ∈ [w, v], safeId id = true) →
      ¬(safeId w = false ∨ (some v).any (!safeId ·) = true) := by
    intro w v hw
    simp [hw w (by simp), hw v (by simp)]
  have hquery : ∀ w : String, (∀ id ∈ [w], safeId id = true) → ¬safeId w = false := by
    intro w hw
    simp [hw w (List.mem_singleton_self w)]
  have hbuilt : ∃ s : String, op.path = .ok s ∧ s.toList = op.chars := by
    cases op with
    | listKnowledge w => exact ⟨_, if_neg (hone w h), by simp [chars, segments, query, joined, Part.text]⟩
    | provisionKnowledge w v => exact ⟨_, if_neg (htwo w v h), by simp [chars, segments, query, joined, Part.text]⟩
    | knowledgeContent w => exact ⟨_, if_neg (hone w h), by simp [chars, segments, query, joined, Part.text]⟩
    | preview w => exact ⟨_, if_neg (hone w h), by simp [chars, segments, query, joined, Part.text]⟩
    | status w => exact ⟨_, if_neg (hone w h), by simp [chars, segments, query, joined, Part.text]⟩
    | approve w => exact ⟨_, if_neg (hone w h), by simp [chars, segments, query, joined, Part.text]⟩
    | transfer w => exact ⟨_, if_neg (hone w h), by simp [chars, segments, query, joined, Part.text]⟩
    | resolve w v => exact ⟨_, if_neg (htwo w v h), by simp [chars, segments, query, joined, Part.text]⟩
    | modelProfiles w => exact ⟨_, if_neg (hquery w h), by simp [chars, segments, query, joined, Part.text]⟩
    | modelDeployments w => exact ⟨_, if_neg (hquery w h), by simp [chars, segments, query, joined, Part.text]⟩
  obtain ⟨s, hpath, hchars⟩ := hbuilt
  rw [hpath, ← hchars, String.ofList_toList]

theorem clean_segments (op : Operation) (h : ∀ id ∈ op.identifiers, safeId id = true) :
    ∀ p ∈ op.segments, Clean p.text := by
  have hliteral : ∀ text ∈ ["api", "v1", "workspaces", "knowledge-packages", "offline-copies",
      "offline-knowledge-copies", "content", "sync-operations", "approve", "transfer-batches",
      "conflicts", "resolution", "model-profiles", "model-deployments"], Clean text := by
    intro text htext
    have hall : ∀ text ∈ ["api", "v1", "workspaces", "knowledge-packages", "offline-copies",
        "offline-knowledge-copies", "content", "sync-operations", "approve", "transfer-batches",
        "conflicts", "resolution", "model-profiles", "model-deployments"],
        (!text.toList.isEmpty && text.toList.all isIdChar) = true := by decide
    have h := hall text htext
    simp only [Bool.and_eq_true, Bool.not_eq_true', List.isEmpty_eq_false_iff, List.all_eq_true] at h
    exact ⟨h.1, h.2⟩
  intro p hp
  cases p with
  | literal text =>
    refine hliteral text ?_
    cases op <;> simp only [segments, List.mem_cons, List.not_mem_nil, Part.literal.injEq, reduceCtorEq,
      or_false, false_or] at hp ⊢ <;> grind
  | identifier id =>
    refine clean_of_safeId (h id ?_)
    cases op <;> simp only [segments, List.mem_cons, List.not_mem_nil, Part.identifier.injEq,
      reduceCtorEq, or_false, false_or] at hp <;> simp [identifiers, hp]

theorem not_mem_joined (op : Operation) (h : ∀ id ∈ op.identifiers, safeId id = true) {c : Char}
    (hc : isIdChar c = false) (hslash : c ≠ '/') : c ∉ joined (op.segments.map (·.text.toList)) := by
  intro hmem
  obtain ⟨p, hp, hcp⟩ := List.mem_flatMap.1 hmem
  obtain ⟨part, hpart, rfl⟩ := List.mem_map.1 hp
  rcases List.mem_cons.1 hcp with heq | hcp
  · exact hslash heq
  · exact (op.clean_segments h part hpart).not_mem hc hcp

theorem query_eq (op : Operation) :
    op.query = [] ∨ ∃ w ∈ op.identifiers, op.query = [("workspace_id", .identifier w)] := by
  cases op with
  | modelProfiles w => exact Or.inr ⟨w, List.mem_singleton_self w, rfl⟩
  | modelDeployments w => exact Or.inr ⟨w, List.mem_singleton_self w, rfl⟩
  | _ => exact Or.inl rfl

theorem query_eq_nil_iff (op : Operation) : op.query = [] ↔ ¬op.ReadsSettings := by
  cases op <;> simp [query, ReadsSettings]

theorem takeWhile_chars (op : Operation) (h : ∀ id ∈ op.identifiers, safeId id = true) :
    op.chars.takeWhile (· ≠ '?') = joined (op.segments.map (·.text.toList)) ∧
      op.chars.dropWhile (· ≠ '?') =
        op.query.flatMap fun item => '?' :: item.1.toList ++ '=' :: item.2.text.toList := by
  have hall : ∀ c ∈ joined (op.segments.map (·.text.toList)), decide (c ≠ '?') = true := by
    intro c hc
    exact decide_eq_true fun heq => op.not_mem_joined h (by decide) (by decide) (heq ▸ hc)
  rw [chars, List.takeWhile_append_of_pos hall, List.dropWhile_append_of_pos hall]
  rcases op.query_eq with hquery | ⟨w, -, hquery⟩
  · simp [hquery]
  · simp [hquery]

theorem readSegments_chars (op : Operation) (h : ∀ id ∈ op.identifiers, safeId id = true) :
    readSegments (String.ofList op.chars) = "" :: op.segments.map Part.text := by
  have hsplit : (joined (op.segments.map (·.text.toList))).splitOn '/' =
      [] :: op.segments.map (·.text.toList) := by
    refine splitOn_joined fun p hp => ?_
    obtain ⟨part, hpart, rfl⟩ := List.mem_map.1 hp
    exact (op.clean_segments h part hpart).not_mem (by decide)
  rw [readSegments, String.toList_ofList, (op.takeWhile_chars h).1, hsplit, List.map_cons, List.map_map]
  simp [Function.comp_def]

theorem readQuery_chars (op : Operation) (h : ∀ id ∈ op.identifiers, safeId id = true) :
    readQuery (String.ofList op.chars) = op.query.map fun item => [item.1, item.2.text] := by
  rw [readQuery, String.toList_ofList, (op.takeWhile_chars h).2]
  rcases op.query_eq with hquery | ⟨w, hw, hquery⟩
  · rw [hquery]
    rfl
  · have hclean := clean_of_safeId (h w hw)
    have hitem : "workspace_id".toList ++ '=' :: w.toList =
        ['='].intercalate ["workspace_id".toList, w.toList] := by
      simp [List.intercalate, List.intersperse]
    have hvalue : ("workspace_id".toList ++ '=' :: w.toList).splitOn '=' =
        ["workspace_id".toList, w.toList] := by
      rw [hitem, List.splitOn_intercalate _ _ (List.cons_ne_nil _ _)]
      simp only [List.forall_mem_cons]
      exact ⟨by decide, hclean.not_mem (by decide), List.forall_mem_nil _⟩
    have hitems : ("workspace_id".toList ++ '=' :: w.toList).splitOn '&' =
        ["workspace_id".toList ++ '=' :: w.toList] := by
      have hnone : '&' ∉ "workspace_id".toList ++ '=' :: w.toList := by
        rw [List.mem_append, List.mem_cons, not_or, not_or]
        exact ⟨by decide, by decide, hclean.not_mem (by decide)⟩
      have hjoined : "workspace_id".toList ++ '=' :: w.toList =
          ['&'].intercalate ["workspace_id".toList ++ '=' :: w.toList] := by
        simp [List.intercalate]
      rw [hjoined, List.splitOn_intercalate _ _ (List.cons_ne_nil _ _)]
      · simp [List.intercalate]
      · exact fun item hmem => (List.mem_singleton.1 hmem) ▸ hnone
    rw [hquery, List.flatMap_cons, List.flatMap_nil, List.append_nil]
    change (("workspace_id".toList ++ '=' :: w.toList).splitOn '&').map
      (fun item => (item.splitOn '=').map String.ofList) = [["workspace_id", w]]
    rw [hitems, List.map_singleton, hvalue, List.map_cons, List.map_singleton, String.ofList_toList,
      String.ofList_toList]

theorem pathAllowed_chars (op : Operation) (h : ∀ id ∈ op.identifiers, safeId id = true) :
    pathAllowed (String.ofList op.chars) = true ↔ op.query = [] := by
  rw [pathAllowed, String.toList_ofList, Bool.and_eq_true, Bool.not_eq_true', decide_eq_false_iff_not,
    List.all_eq_true]
  constructor
  · rintro ⟨-, hall⟩
    rcases op.query_eq with hquery | ⟨w, -, hquery⟩
    · exact hquery
    · have hmem : '?' ∈ op.chars := by
        rw [chars, hquery]
        simp
      exact absurd (of_decide_eq_true (hall _ hmem)) (by decide)
  · intro hquery
    have hchars : op.chars = joined (op.segments.map (·.text.toList)) := by
      rw [chars, hquery, List.flatMap_nil, List.append_nil]
    rw [hchars]
    constructor
    · refine no_double_slash ?_ ?_
      · intro p hp
        obtain ⟨part, hpart, rfl⟩ := List.mem_map.1 hp
        exact (op.clean_segments h part hpart).not_mem (by decide)
      · intro p hp
        obtain ⟨part, hpart, rfl⟩ := List.mem_map.1 hp
        exact (op.clean_segments h part hpart).nonempty
    · intro c hc
      refine decide_eq_true fun hmem => ?_
      have hbad : isIdChar c = false ∧ c ≠ '/' := by
        simp only [List.mem_cons, List.not_mem_nil, or_false] at hmem
        rcases hmem with rfl | rfl | rfl | rfl <;> decide
      exact op.not_mem_joined h hbad.1 hbad.2 hc

theorem eq_of_reads {op op' : Operation} (hsegments : op'.segments.map Part.text = op.segments.map Part.text)
    (hquery : op'.query.map (fun item => [item.1, item.2.text]) =
      op.query.map fun item => [item.1, item.2.text]) : op' = op := by
  cases op <;> cases op' <;> simp_all [segments, query, Part.text]

end Operation

/-- A path of the bridge is sent, is that of one request and holds each identifier once exactly when it is not
one of the two reads of `refresh_provider_settings`. -/
theorem path_lawful_iff (op : Operation) (h : ∀ id ∈ op.identifiers, safeId id = true) :
    PathLawful op ↔ ¬op.ReadsSettings := by
  rw [← op.query_eq_nil_iff, ← op.pathAllowed_chars h]
  constructor
  · intro hlawful
    obtain ⟨path, hpath, hsent⟩ := hlawful.sent
    obtain rfl := Except.ok.inj (hpath.symm.trans (op.path_eq h))
    have hexecute := hsent (fun _ => .ok ()) ⟨op.method, String.ofList op.chars, [], none, none, none, false⟩
      rfl
    by_contra hrefused
    rw [execute, if_neg hrefused] at hexecute
    cases hexecute
  · intro hallowed
    refine ⟨⟨_, op.path_eq h, fun send request hrequest => ?_⟩, fun op' h' _ hsame => ?_,
      ⟨_, op.path_eq h, op.readSegments_chars h, op.readQuery_chars h, ?_⟩⟩
    · rw [execute, hrequest, if_pos hallowed]
    · rw [op.path_eq h, op'.path_eq h', Except.ok.injEq] at hsame
      have hsegments := op'.readSegments_chars h'
      rw [hsame, op.readSegments_chars h] at hsegments
      have hquery := op'.readQuery_chars h'
      rw [hsame, op.readQuery_chars h] at hquery
      exact Operation.eq_of_reads (List.cons.inj hsegments).2.symm hquery.symm
    · cases op <;> rfl

theorem path_lawful_resolve : PathLawful (.resolve "operation-1" "conflict-1") ↔
    ¬(Operation.resolve "operation-1" "conflict-1").ReadsSettings :=
  path_lawful_iff (.resolve "operation-1" "conflict-1") (by decide)

/-- The profiles of a workspace are not read. -/
theorem profiles_refused :
    ¬∀ op : Operation, (∀ id ∈ op.identifiers, safeId id = true) → PathLawful op := by
  intro h
  obtain ⟨path, hpath, hsent⟩ := (h (.modelProfiles "workspace-1") (by decide)).sent
  have hsame := (Operation.path_eq (.modelProfiles "workspace-1") (by decide)).symm.trans hpath
  have hrefused : ¬pathAllowed path = true := by
    rw [← Except.ok.inj hsame]
    decide
  have hexecute := hsent (fun _ => .ok ()) ⟨"GET", path, [], none, none, none, false⟩ rfl
  rw [execute, if_neg hrefused] at hexecute
  cases hexecute

end DaonUser.OfflineBridge
