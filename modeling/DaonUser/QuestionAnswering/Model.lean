import DaonUser.Base
import Mathlib.Algebra.GroupWithZero.Nat
import Mathlib.Data.List.Nodup
import Mathlib.Data.String.Basic

/-!
# Question answering: from a provider's response to a result

What the model wrote is checked and then thrown away: `_finalize_grounded_result` answers with whole texts
of the evidence that the model cites, `_finalize_general_result` with a sentence of its own. The requests
that are sent are not modelled; the response is any JSON value.
-/

namespace DaonUser.QuestionAnswering

/-! ## Values -/

inductive Value where
  | null
  | bool (b : Bool)
  | int (n : Int)
  | float (text : String)
  | str (s : String)
  | list (items : List Value)
  | dict (members : List (String × Value))

inductive Raised where
  | value (text : String)
  | key
  | index
  | type
  | attribute
  | other
  deriving DecidableEq

structure Primitives where
  /-- `json.loads`. -/
  loads : String → Except Raised Value
  /-- `int(…)`. -/
  int : Value → Except Raised Int
  /-- `str(…)`. -/
  str : Value → String
  /-- `str.casefold`. -/
  casefold : String → String
  /-- `_evidence_anchors`. -/
  evidenceAnchors : String → List String

def invalidResponse {α : Type} : Except Raised α := .error (.value "TEXT_GENERATION_RESPONSE_INVALID")

def invalidGrounding {α : Type} : Except Raised α :=
  .error (.value "TEXT_GENERATION_GROUNDING_INVALID")

namespace Value

/-- `value.get(key)` of a dict. -/
def get? (members : List (String × Value)) (key : String) : Option Value :=
  (members.find? (·.1 = key)).map (·.2)

/-- `value[key]`. -/
def item (value : Value) (key : String) : Except Raised Value :=
  match value with
  | dict members =>
    match get? members key with
    | some found => .ok found
    | none => .error .key
  | _ => .error .type

/-- `value[0]`. -/
def first (value : Value) : Except Raised Value :=
  match value with
  | list [] => .error .index
  | list (found :: _) => .ok found
  | str s =>
    match s.toList with
    | [] => .error .index
    | c :: _ => .ok (str (String.ofList [c]))
  | dict _ => .error .key
  | _ => .error .type

def texts? : List Value → Option (List String)
  | [] => some []
  | str s :: rest => (texts? rest).map (s :: ·)
  | _ :: _ => none

end Value

/-- `value.strip()`. -/
def strip (value : String) : String := String.ofList (stripChars isSpace value.toList)

/-- `len(value)`. -/
def len (value : String) : Nat := value.toList.length

/-- `value.rstrip(characters)`. -/
def rstrip (characters : String) (value : String) : String :=
  String.ofList ((value.toList.reverse.dropWhile fun c => characters.toList.contains c).reverse)

/-- `re.sub(r"\s+", " ", value)`, after a character that was or was not a space. -/
def collapseSpaces : Bool → List Char → List Char
  | _, [] => []
  | blank, c :: cs =>
    if isSpace c then if blank then collapseSpaces true cs else ' ' :: collapseSpaces true cs
    else c :: collapseSpaces false cs

structure IndexedEvidenceChunk where
  chunkId : String
  text : String
  locatorKind : String
  deriving DecidableEq

structure GroundedQuestionRequest where
  question : String
  evidence : List IndexedEvidenceChunk
  traceId : String
  asked : strip question ≠ "" ∧ len question ≤ 2000
  traced : isLongId traceId = true
  supported : evidence ≠ [] ∧ evidence.length ≤ 10

structure GeneralConversationRequest where
  question : String
  traceId : String
  asked : strip question ≠ "" ∧ len question ≤ 2000
  traced : isLongId traceId = true

inductive GroundingStatus where
  | sufficient
  | partly
  | noRelevantEvidence
  | conversational
  deriving DecidableEq

structure GroundedTextResult where
  answer : String
  citedChunkIds : List String
  insufficient : Bool
  usage : List (String × Int)
  groundingStatus : GroundingStatus
  nextActions : List String
  deriving DecidableEq

/-! ## The checks of what the model wrote -/

structure GroundedFields where
  answer : String
  citedChunkIds : List String
  insufficient : Bool
  groundingStatus : GroundingStatus
  nextActions : List String

def groundedFields : List String :=
  ["answer", "cited_chunk_ids", "insufficient", "grounding_status", "next_actions"]

/-- `set(parsed) == fields`. -/
def hasFields (members : List (String × Value)) (fields : List String) : Bool :=
  (members.all fun m => fields.contains m.1) && fields.all fun f => (members.map (·.1)).contains f

/-- A `grounding_status` that a model may write. -/
def statusOf (text : String) : Option GroundingStatus :=
  if text = "sufficient" then some .sufficient
  else if text = "partial" then some .partly
  else if text = "no_relevant_evidence" then some .noRelevantEvidence
  else none

/-- The shape that `_validate_answer_fields` asks of a grounded answer. -/
def readGroundedFields (parsed : Value) : Option GroundedFields :=
  match parsed with
  | .dict members =>
    match Value.get? members "answer", Value.get? members "cited_chunk_ids",
      Value.get? members "insufficient", Value.get? members "grounding_status",
      Value.get? members "next_actions" with
    | some (.str answer), some (.list cited), some (.bool insufficient), some (.str status),
        some (.list actions) => do
      let cited ← Value.texts? cited
      let actions ← Value.texts? actions
      let status ← statusOf status
      if hasFields members groundedFields ∧ cited.length ≤ 10 ∧ cited.all isLongId ∧
          actions.length ≤ 4 ∧ (actions.all fun a => 1 ≤ len (strip a) && len (strip a) ≤ 120) then
        some ⟨answer, cited, insufficient, status, actions⟩
      else none
    | _, _, _, _, _ => none
  | _ => none

def GroundedFields.consistent (f : GroundedFields) : Bool :=
  1 ≤ len (strip f.answer) && len (strip f.answer) ≤ 8000 && f.citedChunkIds.Nodup &&
    match f.groundingStatus with
    | .sufficient => !f.insufficient && f.citedChunkIds ≠ [] && f.nextActions = []
    | .partly => !f.insufficient && f.citedChunkIds ≠ [] && f.nextActions ≠ []
    | .noRelevantEvidence => f.insufficient && f.citedChunkIds = [] && f.nextActions ≠ []
    | .conversational => false

/-- `_validate_answer_fields` with `grounded=True`. -/
def validateGrounded (parsed : Value) : Except Raised GroundedFields :=
  match readGroundedFields parsed with
  | none => invalidResponse
  | some f => if f.consistent then .ok f else invalidGrounding

/-- `_validate_answer_fields` with `grounded=False`. -/
def validateGeneral (parsed : Value) : Except Raised String :=
  match parsed with
  | .dict members =>
    match Value.get? members "answer" with
    | some (.str answer) =>
      if hasFields members ["answer"] ∧ 1 ≤ len (strip answer) ∧ len (strip answer) ≤ 8000 then
        .ok answer
      else invalidResponse
    | _ => invalidResponse
  | _ => invalidResponse

/-! ## The results -/

def groundingMissingAnswer : String := "선택한 원문 근거에 질문에 답할 정보가 없습니다."

def groundingActions : List String := ["질문의 대상·기간·조건을 확인할 수 있는 자료를 추가해 주세요."]

def quotePrefix : String :=
  "현재 자료에서 확인되는 원문입니다. 이 내용만으로 질문 전체를 확정하기 어렵습니다.\n\n"

/-- `by_id.get(id)`: of chunks with one id the last one counts. -/
def byId (evidence : List IndexedEvidenceChunk) (id : String) : Option IndexedEvidenceChunk :=
  evidence.reverse.find? (·.chunkId = id)

def missingResult (usage : List (String × Int)) : GroundedTextResult :=
  ⟨groundingMissingAnswer, [], true, usage, .noRelevantEvidence, groundingActions⟩

def quoted : List IndexedEvidenceChunk → Nat → List IndexedEvidenceChunk
  | [], _ => []
  | chunk :: rest, length =>
    if strip chunk.text = "" ∨ 8000 < length + len chunk.text + 4 then quoted rest length
    else chunk :: quoted rest (length + len chunk.text + 4)

def quotes (chunks : List IndexedEvidenceChunk) : String :=
  "\n\n".intercalate (chunks.map fun chunk => "「" ++ chunk.text ++ "」")

def anchored (prim : Primitives) (answer sourceText : String) : Bool :=
  (prim.evidenceAnchors answer).all (prim.evidenceAnchors sourceText).contains

/-- The end of `_finalize_grounded_result`, on the chunks with the cited ids. -/
def projectResult (fields : GroundedFields) (cited : List IndexedEvidenceChunk)
    (usage : List (String × Int)) : GroundedTextResult :=
  let originals := cited.map (·.text)
  let answer := strip fields.answer
  let exactWhole := originals ≠ [] ∧ (∀ text ∈ originals, strip text ≠ "") ∧
    (answer = "\n".intercalate (originals.map strip) ∨
      answer = "\n\n".intercalate (originals.map strip))
  let shown := quoted cited (len quotePrefix)
  if fields.insufficient then missingResult usage
  else if exactWhole ∧ fields.groundingStatus = .sufficient then
    ⟨answer, fields.citedChunkIds, false, usage, .sufficient, []⟩
  else if shown = [] then missingResult usage
  else ⟨quotePrefix ++ quotes shown, shown.map (·.chunkId), false, usage, .partly, groundingActions⟩

def finalizeGroundedResult (prim : Primitives) (request : GroundedQuestionRequest) (parsed : Value)
    (usage : List (String × Int)) : Except Raised GroundedTextResult := do
  let fields ← validateGrounded parsed
  let cited := fields.citedChunkIds.filterMap (byId request.evidence)
  if ¬fields.citedChunkIds.all fun id => (byId request.evidence id).isSome then invalidGrounding
  else if ¬anchored prim fields.answer ("\n".intercalate (cited.map (·.text))) then invalidGrounding
  else return projectResult fields cited usage

def approvedSentences (normalized : String) : String × List String :=
  if normalized ∈ ["고마워", "고마워요", "감사합니다"] then
    ("감사합니다. 도움이 필요하시면 말씀해 주세요.", ["도움이 되었다니 기쁩니다."])
  else if normalized ∈ ["도움말", "daon 사용법 알려줘", "daon 사용법을 알려줘", "다온 사용법 알려줘",
      "다온 사용법을 알려줘", "이 제품 사용법 알려줘", "이 제품 사용법을 알려줘"] then
    ("Source를 선택하고 질문해 주세요. 자료를 바탕으로 결과물을 만들려면 지원되는 Studio 유형을 선택할 수 있습니다.", [])
  else ("안녕하세요. 무엇을 도와드릴까요?", ["안녕하세요.", "안녕하세요!", "반갑습니다."])

def finalizeGeneralResult (prim : Primitives) (request : GeneralConversationRequest) (answer : String)
    (usage : List (String × Int)) : GroundedTextResult :=
  let normalized := String.ofList (collapseSpaces false
    (strip (rstrip ".!?。！？" (prim.casefold (strip request.question)))).toList)
  let (fallback, others) := approvedSentences normalized
  ⟨if answer ∈ fallback :: others then answer else fallback, [], false, usage, .conversational, []⟩

end DaonUser.QuestionAnswering
