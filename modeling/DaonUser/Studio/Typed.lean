import DaonUser.Lib.JsonRead
import DaonUser.Lib.Regex
import DaonUser.Lib.Utf8
import DaonUser.QuestionAnswering.Model

/-!
# The typed output of a studio

`parse_typed_output` of `studio_typed_generation`. What the model wrote is a JSON value; the content of
every output type is built again from its items, whose texts are compared with the chunks that they cite. An
error is always the same `STUDIO_OUTPUT_UNAVAILABLE`, here `none`.

A `Content` holds what is published before `json.dumps` writes it, with the chunks instead of their ids.
-/

namespace DaonUser.Studio

open Lib
open QuestionAnswering (strip len)

/-! ## Values -/

/-- The values of `OUTPUT_TYPES`. -/
inductive OutputType where
  | evidenceReport
  | complianceChecklist
  | comparisonTable
  | knowledgeMap
  | businessDraft
  | slides
  | infographic
  | flashcards
  | quiz
  | audio
  | video
  deriving DecidableEq

def supportedTypes : List OutputType :=
  [.evidenceReport, .complianceChecklist, .comparisonTable, .knowledgeMap, .businessDraft, .slides,
    .infographic, .flashcards, .quiz]

structure StudioGenerationRequest where
  outputType : OutputType
  purpose : String
  rulesetVersionId : Option String
  structure_ : String
  outputFormat : String

structure Reading (ν : Type) where
  /-- `json.loads` with `_pairs` and without constants. -/
  loads : String → Option (Json ν)
  /-- `_evidence_anchors`. -/
  evidenceAnchors : String → List String

inductive Raw (ν : Type) where
  | bytes (bytes : List UInt8)
  | text (text : String)
  | dict (members : List (String × Json ν))
  | other

structure Chunk (ν : Type) where
  chunkId : String
  text : String
  page : Int
  sourceVersionId : Option (Json ν)

structure CheckItem (ν : Type) where
  criterion : String
  observation : String
  action : String
  criterionChunk : Chunk ν
  observationChunk : Chunk ν

structure Row (ν : Type) where
  key : String
  baseline : String
  current : String
  baselineChunk : Chunk ν
  currentChunk : Chunk ν

structure Node (ν : Type) where
  label : String
  evidence : List (Chunk ν)

structure Edge (ν : Type) where
  source : Nat
  target : Nat
  condition : String
  evidence : List (Chunk ν)

structure Section_ (ν : Type) where
  title : String
  body : String
  evidence : List (Chunk ν)

structure Metric (ν : Type) where
  label : String
  value : String
  evidence : List (Chunk ν)

structure Card (ν : Type) where
  question : String
  answer : String
  evidence : List (Chunk ν)

structure QuizQuestion (ν : Type) where
  question : String
  options : List String
  answerIndex : Nat
  explanation : String
  evidence : List (Chunk ν)

inductive Content (ν : Type) where
  | report (summary body conclusion : String) (evidence : List (Chunk ν))
  | checklist (items : List (CheckItem ν))
  | table (rows : List (Row ν))
  | map (nodes : List (Node ν)) (edges : List (Edge ν))
  | draft (sections : List (Section_ ν))
  | slides (sections : List (Section_ ν))
  | infographic (summary : String) (metrics : List (Metric ν))
  | flashcards (cards : List (Card ν))
  | quiz (questions : List (QuizQuestion ν))

/-- `used`: the chunks that the items refer to. -/
def Content.references {ν : Type} : Content ν → List (Chunk ν)
  | .report _ _ _ evidence => evidence
  | .checklist items => items.flatMap fun item => [item.criterionChunk, item.observationChunk]
  | .table rows => rows.flatMap fun row => [row.baselineChunk, row.currentChunk]
  | .map nodes edges => nodes.flatMap (·.evidence) ++ edges.flatMap (·.evidence)
  | .draft sections => sections.flatMap (·.evidence)
  | .slides sections => sections.flatMap (·.evidence)
  | .infographic _ metrics => metrics.flatMap (·.evidence)
  | .flashcards cards => cards.flatMap (·.evidence)
  | .quiz questions => questions.flatMap (·.evidence)

section Reading

variable {ν : Type} [ReadableNumber ν]

def text_ (maximum : Nat) : Json ν → Option String
  | .str s =>
    if 1 ≤ len (strip s) ∧ len (strip s) ≤ maximum ∧
        s.toList.all fun c => decide (32 ≤ c.toNat ∨ c ∈ ['\t', '\n', '\r']) then some s
    else none
  | _ => none

def exact (keys : List String) : Json ν → Option (String → Json ν)
  | .obj members =>
    if Json.HasKeys keys members then some fun key => (Json.field? key members).getD .null else none
  | _ => none

def items_ (minimum maximum : Nat) : Json ν → Option (List (Json ν))
  | .arr items => if minimum ≤ items.length ∧ items.length ≤ maximum then some items else none
  | _ => none

def texts_ (items : List (Json ν)) : Option (List String) := items.mapM Json.text?

def load (p : Reading ν) : Raw ν → Option (Json ν)
  | .bytes bytes => if 65536 < bytes.length then none else do
    let cs ← readUtf8 bytes.length bytes
    p.loads (String.ofList cs)
  | .text text => if 65536 < (utf8 text.toList).length then none else p.loads text
  | .dict members =>
    let text := String.ofList (Json.chars (.obj members))
    if 65536 < (utf8 text.toList).length then none else p.loads text
  | .other => none

def readEvidence : List String → List (Json ν) → Option (List (Chunk ν))
  | _, [] => some []
  | ids, item :: items => do
    let members ← item.members?
    let chunkId ← (Json.field? "chunk_id" members).bind (text_ 128)
    let text ← (Json.field? "text" members).bind (text_ 8000)
    let page ← match Json.field? "page" members with
      | some (.num n) => ReadableNumber.toInt? n
      | _ => none
    guard (chunkId ∉ ids ∧ 1 ≤ page)
    let chunks ← readEvidence (chunkId :: ids) items
    return ⟨chunkId, text, page, Json.field? "source_version_id" members⟩ :: chunks

def chunkOf (chunks : List (Chunk ν)) (id : String) : Option (Chunk ν) := chunks.find? (·.chunkId = id)

/-! ## The texts of an item -/

/-- `refs`: the chunks that a list of ids refers to, among those that are cited. -/
def refs (cited : List (Chunk ν)) (value : Json ν) : Option (List (Chunk ν)) := do
  let values ← items_ 1 10 value
  let ids ← texts_ values
  guard ids.Nodup
  ids.mapM (chunkOf cited)

/-- `refs` of one id. -/
def ref (cited : List (Chunk ν)) (value : Json ν) : Option (Chunk ν) := do
  let id ← value.text?
  chunkOf cited id

/-- The text is that of all the chunks, one a line or one a paragraph. -/
def IsQuote (chunks : List (Chunk ν)) (text : String) : Prop :=
  strip text = "\n".intercalate (chunks.map fun chunk => strip chunk.text) ∨
    strip text = "\n\n".intercalate (chunks.map fun chunk => strip chunk.text)

instance (chunks : List (Chunk ν)) (text : String) : Decidable (IsQuote chunks text) :=
  inferInstanceAs (Decidable (_ ∨ _))

def quote (chunks : List (Chunk ν)) (value : Json ν) : Option String := do
  let text ← text_ 8000 value
  guard (IsQuote chunks text)
  return text

def fixedHeadings : List String := ["요약", "본문", "결론", "핵심 내용", "검토", "확인 필요"]

/-- The text is fixed, or is found in one of the chunks. -/
def IsHeading (chunks : List (Chunk ν)) (text : String) : Prop :=
  text ∈ fixedHeadings ∨ ∃ chunk ∈ chunks, text.toList <:+: chunk.text.toList

instance (chunks : List (Chunk ν)) (text : String) : Decidable (IsHeading chunks text) :=
  inferInstanceAs (Decidable (_ ∨ _))

def heading (chunks : List (Chunk ν)) (value : Json ν) : Option String := do
  let text ← text_ 255 value
  guard (IsHeading chunks text)
  return text

/-- `(?:선택 자료의 |선택한 자료의 )`. -/
def frameStart : Regex :=
  .alt (.literal "선택 자료의 ".toList) (.literal "선택한 자료의 ".toList)

/-- `(?: 관련 내용| 기준)?(?:은|는)?[?？]`. -/
def frameEnd : Regex :=
  .seq (.optional (.alt (.literal " 관련 내용".toList) (.literal " 기준".toList)))
    (.seq (.optional (.one fun c => c = '은' || c = '는')) (.one fun c => c = '?' || c = '？'))

def stem (text : String) : String :=
  String.ofList (frameEnd.dropEnd (frameStart.dropStart text.toList))

def question (chunks : List (Chunk ν)) (value : Json ν) : Option String := do
  let text ← text_ 500 value
  let _ ← heading chunks (.str (stem text))
  return text

def fixedActions : List String :=
  ["원문 기준과 기록을 검토해 주세요.", "선택한 기준과 근거를 확인해 주세요.", "추가 자료를 확인해 주세요."]

def action (chunks : List (Chunk ν)) (value : Json ν) : Option String := do
  let text ← text_ 120 value
  guard (text ∈ fixedActions ∨ IsQuote chunks text)
  return text

/-- A small letter, with `re.IGNORECASE`. -/
def letter (c : Char) : Regex :=
  .one fun d => d = c || d = c.toUpper || (c = 's' && d.toNat = 0x17f) ||
    (c = 'k' && d.toNat = 0x212a) || (c = 'i' && (d.toNat = 0x130 || d.toNat = 0x131))

/-- `https?://|비밀번호|API.?Key|토큰|정책.*해제`, with `re.IGNORECASE`. -/
def unsafeAction : Regex :=
  let letters := fun s : String => s.toList.foldr (fun c r => .seq (letter c) r) .empty
  let any := Regex.one (· ≠ '\n')
  .alt (.seq (letters "http") (.seq (.optional (letter 's')) (.literal "://".toList)))
    (.alt (.literal "비밀번호".toList)
      (.alt (.seq (letters "api") (.seq (.optional any) (letters "key")))
        (.alt (.literal "토큰".toList)
          (.seq (.literal "정책".toList) (.seq (.star any) (.literal "해제".toList))))))

/-! ## The items -/

def listOf {α : Type} (minimum : Nat) (f : Json ν → Option α) (value : Json ν) : Option (List α) :=
  (items_ minimum 32 value).bind (List.mapM f)

def reportPart (chunks : List (Chunk ν)) (value : Json ν) : Option String := do
  let text ← text_ 8000 value
  guard (strip text ∈ chunks.map (fun chunk => strip chunk.text) ∨ IsQuote chunks text)
  return text

def readReport (cited : List (Chunk ν)) (content : Json ν) : Option (Content ν) := do
  let field ← exact ["summary", "body", "conclusion", "evidence"] content
  let chunks ← refs cited (field "evidence")
  let summary ← reportPart chunks (field "summary")
  let body ← reportPart chunks (field "body")
  let conclusion ← reportPart chunks (field "conclusion")
  guard ¬(strip summary = strip body ∧ strip body = strip conclusion)
  return .report summary body conclusion chunks

def readCheckItem (cited : List (Chunk ν)) (item : Json ν) : Option (CheckItem ν) := do
  let field ← exact ["criterion", "observation", "judgement", "action", "criterion_chunk_id",
    "observation_chunk_id"] item
  let criterionChunk ← ref cited (field "criterion_chunk_id")
  let observationChunk ← ref cited (field "observation_chunk_id")
  let criterion ← quote [criterionChunk] (field "criterion")
  let observation ← quote [observationChunk] (field "observation")
  guard ((field "judgement").text? = some "needs_review")
  let action ← action [criterionChunk, observationChunk] (field "action")
  guard (unsafeAction.search action = false)
  return ⟨criterion, observation, action, criterionChunk, observationChunk⟩

def readRow (cited : List (Chunk ν)) (item : Json ν) : Option (Row ν) := do
  let field ← exact ["key", "baseline", "current", "baseline_chunk_id", "current_chunk_id"] item
  let baselineChunk ← ref cited (field "baseline_chunk_id")
  let currentChunk ← ref cited (field "current_chunk_id")
  guard (baselineChunk.chunkId ≠ currentChunk.chunkId)
  let baseline ← quote [baselineChunk] (field "baseline")
  let current ← quote [currentChunk] (field "current")
  let key ← heading [baselineChunk, currentChunk] (field "key")
  return ⟨key, baseline, current, baselineChunk, currentChunk⟩

def readNode (cited : List (Chunk ν)) (item : Json ν) : Option (Node ν) := do
  let field ← exact ["label", "evidence"] item
  let chunks ← refs cited (field "evidence")
  let label ← heading chunks (field "label")
  return ⟨label, chunks⟩

def joined (chunks : List (Chunk ν)) : String := "\n".intercalate (chunks.map (·.text))

def readEdge (cited : List (Chunk ν)) (nodes : List (Node ν)) (item : Json ν) :
    Option (Edge ν) := do
  let field ← exact ["source_index", "target_index", "condition", "evidence"] item
  let source ← (field "source_index").nat?
  let target ← (field "target_index").nat?
  let sourceNode ← nodes[source]?
  let targetNode ← nodes[target]?
  guard (source ≠ target)
  let chunks ← refs cited (field "evidence")
  let condition ← quote chunks (field "condition")
  guard (∀ node ∈ [sourceNode, targetNode], node.label.toList <:+: (joined chunks).toList)
  return ⟨source, target, condition, chunks⟩

def readMap (cited : List (Chunk ν)) (content : Json ν) : Option (Content ν) := do
  let field ← exact ["nodes", "edges"] content
  let nodes ← listOf 2 (readNode cited) (field "nodes")
  guard (nodes.map (·.label)).Nodup
  let edges ← listOf 1 (readEdge cited nodes) (field "edges")
  guard (edges.map fun edge =>
    (min edge.source edge.target, max edge.source edge.target, edge.condition)).Nodup
  return .map nodes edges

def readSection (cited : List (Chunk ν)) (item : Json ν) : Option (Section_ ν) := do
  let field ← exact ["title", "body", "evidence"] item
  let chunks ← refs cited (field "evidence")
  let title ← heading chunks (field "title")
  let body ← quote chunks (field "body")
  return ⟨title, body, chunks⟩

def readSections (cited : List (Chunk ν)) (collection : String) (content : Json ν) :
    Option (List (Section_ ν)) := do
  let field ← exact [collection] content
  let sections ← listOf 1 (readSection cited) (field collection)
  guard (sections.map (·.body)).Nodup
  return sections

/-- `[+−-]?[0-9][0-9,.%\s가-힣A-Za-z/]*`. -/
def numeric : Regex :=
  .seq (.optional (.one fun c => "+−-".toList.contains c)) (.seq (.one Char.isDigit)
    (.star (.one fun c => c.isAlphanum || ",.%/".toList.contains c || isSpace c ||
      (0xac00 ≤ c.toNat && c.toNat ≤ 0xd7a3))))

/-- `\s*label\s*[:=]\s*value\s*`. -/
def labelled (label value : String) : Regex :=
  let blanks := Regex.star (.one isSpace)
  .seq blanks (.seq (.literal label.toList) (.seq blanks (.seq (.one fun c => c = ':' || c = '=')
    (.seq blanks (.seq (.literal value.toList) blanks)))))

def numbers (text : String) : List String :=
  let number := Regex.seq (.optional (.one fun c => "+−-".toList.contains c))
    (.seq (.star (.one isSpace)) (.seq (.plus (.one Char.isDigit))
      (.star (.seq (.one fun c => c = '.' || c = ',') (.plus (.one Char.isDigit))))))
  (number.findall (fun c => c.isDigit || c = '.') 0 none text.toList).map fun token =>
    String.ofList (token.toList.filter fun c => !isSpace c)

def MetricAllowed (p : Reading ν) (chunks evidence : List (Chunk ν)) (label value : String) : Prop :=
  value ∉ evidence.map (·.chunkId) ∧ value.toList <:+: (joined chunks).toList ∧
    p.evidenceAnchors value ⊆ p.evidenceAnchors (joined chunks) ∧
    numbers value ⊆ numbers (joined chunks) ∧
    if numeric.fullmatch value = false then IsQuote chunks value
    else chunks.length = 1 ∧ (labelled label value).fullmatch (joined chunks) = true

instance (p : Reading ν) (chunks evidence : List (Chunk ν)) (label value : String) :
    Decidable (MetricAllowed p chunks evidence label value) := by
  unfold MetricAllowed
  infer_instance

def readMetric (p : Reading ν) (evidence cited : List (Chunk ν)) (item : Json ν) :
    Option (Metric ν) := do
  let field ← exact ["label", "value", "evidence"] item
  let chunks ← refs cited (field "evidence")
  let label ← heading chunks (field "label")
  let value ← text_ 255 (field "value")
  guard (MetricAllowed p chunks evidence label value)
  return ⟨label, value, chunks⟩

def readInfographic (p : Reading ν) (evidence cited : List (Chunk ν)) (content : Json ν) :
    Option (Content ν) := do
  let field ← exact ["summary", "metrics"] content
  let metrics ← listOf 1 (readMetric p evidence cited) (field "metrics")
  let used := metrics.flatMap (·.evidence)
  let summary ← quote (cited.filter fun chunk => chunk.chunkId ∈ used.map (·.chunkId))
    (field "summary")
  return .infographic summary metrics

def readCard (cited : List (Chunk ν)) (item : Json ν) : Option (Card ν) := do
  let field ← exact ["question", "answer", "evidence"] item
  let chunks ← refs cited (field "evidence")
  let question ← question chunks (field "question")
  let answer ← quote chunks (field "answer")
  return ⟨question, answer, chunks⟩

def readFlashcards (cited : List (Chunk ν)) (content : Json ν) : Option (Content ν) := do
  let field ← exact ["cards"] content
  let cards ← listOf 1 (readCard cited) (field "cards")
  guard ((cards.map (·.question)).Nodup ∧ (cards.map (·.answer)).Nodup)
  return .flashcards cards

def wrongOption (text : String) : Bool :=
  (text_ 1000 (Json.str text : Json ν)).isSome && startsWith text "교육용 오답:" && 7 < len text

def readQuizQuestion (cited : List (Chunk ν)) (item : Json ν) : Option (QuizQuestion ν) := do
  let field ← exact ["question", "options", "answer_index", "explanation", "evidence"] item
  let chunks ← refs cited (field "evidence")
  let question ← question chunks (field "question")
  let options ← (items_ 2 6 (field "options")).bind texts_
  let answerIndex ← (field "answer_index").nat?
  let answer ← options[answerIndex]?
  guard options.Nodup
  let _ ← quote chunks (.str answer)
  let explanation ← quote chunks (field "explanation")
  guard ((options.eraseIdx answerIndex).all (wrongOption (ν := ν)) = true)
  return ⟨question, options, answerIndex, explanation, chunks⟩

def readQuiz (cited : List (Chunk ν)) (content : Json ν) : Option (Content ν) := do
  let field ← exact ["questions"] content
  let questions ← listOf 1 (readQuizQuestion cited) (field "questions")
  guard (questions.map (·.question)).Nodup
  return .quiz questions

def readContent (p : Reading ν) (evidence cited : List (Chunk ν)) (content : Json ν) :
    OutputType → Option (Content ν)
  | .evidenceReport => readReport cited content
  | .complianceChecklist => do
    let field ← exact ["items"] content
    let items ← listOf 1 (readCheckItem cited) (field "items")
    return .checklist items
  | .comparisonTable => do
    let field ← exact ["rows"] content
    let rows ← listOf 1 (readRow cited) (field "rows")
    guard (rows.map (·.key)).Nodup
    return .table rows
  | .knowledgeMap => readMap cited content
  | .businessDraft => do
    let sections ← readSections cited "sections" content
    return .draft sections
  | .slides => do
    let slides ← readSections cited "slides" content
    return .slides slides
  | .infographic => readInfographic p evidence cited content
  | .flashcards => readFlashcards cited content
  | .quiz => readQuiz cited content
  | .audio => none
  | .video => none

/-! ## The result -/

/-- `request_id` and `model_id`. -/
structure Lineage where
  requestId : String
  modelId : String

def Lineage.json (lineage : Lineage) : Json ν :=
  .obj [("request_id", .str lineage.requestId), ("model_id", .str lineage.modelId)]

def texts (items : List String) : Json ν := .arr (items.map .str)

def idsOf (chunks : List (Chunk ν)) : List String := chunks.map (·.chunkId)

def numbered {α β : Type} (f : Nat → α → β) (items : List α) : List β :=
  items.mapIdx fun index item => f (index + 1) item

/-- `f"{prefix}-{index}"`. -/
def numberedId (kind : String) (index : Nat) : Json ν := .str (kind ++ "-" ++ toString index)

def Content.json (request : StudioGenerationRequest) (lineage : Lineage) (warnings : List String) :
    Content ν → Json ν
  | .report summary body conclusion evidence =>
    .obj [("format", .str request.outputFormat), ("status", .str "generated"),
      ("summary", .str summary), ("body", .str body), ("conclusion", .str conclusion),
      ("citations", .arr (evidence.map fun chunk =>
        let page := .num (ReadableNumber.ofInt chunk.page)
        .arr [.str chunk.chunkId, page, page])),
      ("warnings", texts warnings), ("lineage", lineage.json)]
  | .checklist items =>
    .obj [("items", .arr (numbered (fun index item => .obj [("item_id", numberedId "check" index),
        ("criterion", .str item.criterion), ("observation", .str item.observation),
        ("judgement", .str "needs_review"),
        ("evidence", .str ("; ".intercalate (idsOf [item.criterionChunk, item.observationChunk]))),
        ("ruleset_id", .str (request.rulesetVersionId.getD "none")),
        ("action", .str item.action)]) items)),
      ("warnings", texts (warnings ++ ["규정과 기록의 최종 판정은 검토가 필요합니다."])),
      ("lineage", lineage.json)]
  | .table rows =>
    .obj [("rows", .arr (rows.map fun row =>
        let same := row.baseline = row.current
        .obj ([("key", .str row.key), ("baseline", .str row.baseline), ("current", .str row.current),
          ("difference", if same then .null else texts [row.baseline, row.current]),
          ("state", .str (if same then "same" else "changed")),
          ("evidence", texts (idsOf [row.baselineChunk, row.currentChunk]))] ++
          (row.baselineChunk.sourceVersionId.toList.map fun version => ("baseline_version", version)) ++
          (row.currentChunk.sourceVersionId.toList.map fun version => ("current_version", version))))),
      ("warnings", texts warnings)]
  | .map nodes edges =>
    .obj [("nodes", .arr (numbered (fun index node => .obj [("id", numberedId "node" index),
        ("label", .str node.label), ("confidence", .str "verified"),
        ("evidence", .str ("; ".intercalate (idsOf node.evidence)))]) nodes)),
      ("edges", .arr (numbered (fun index edge => .obj [("id", numberedId "edge" index),
        ("source", numberedId "node" (min edge.source edge.target + 1)),
        ("target", numberedId "node" (max edge.source edge.target + 1)),
        ("condition", .str edge.condition), ("direction", .str "none")]) edges)),
      ("warnings", texts warnings), ("relation_mode", .str "quoted_context")]
  | .draft sections =>
    .obj [("sections", .arr (sections.map fun item => .obj [("title", .str item.title),
        ("body", .str item.body), ("evidence", texts (idsOf item.evidence))])),
      ("warnings", texts warnings), ("template_id", .str request.structure_),
      ("review_state", .str "draft"), ("lineage", lineage.json)]
  | .slides sections =>
    .obj [("slides", .arr (numbered (fun index item => .obj [("title", .str item.title),
        ("body", .str item.body), ("evidence", texts (idsOf item.evidence)),
        ("slide_number", .num (ReadableNumber.ofInt index))]) sections)),
      ("warnings", texts warnings), ("title", .str request.purpose)]
  | .infographic summary metrics =>
    .obj [("title", .str request.purpose), ("summary", .str summary),
      ("metrics", .arr (metrics.map fun metric => .obj [("label", .str metric.label),
        ("value", .str metric.value), ("evidence", texts (idsOf metric.evidence))])),
      ("warnings", texts warnings)]
  | .flashcards cards =>
    .obj [("title", .str request.purpose),
      ("cards", .arr (numbered (fun index card => .obj [("id", numberedId "card" index),
        ("question", .str card.question), ("answer", .str card.answer),
        ("evidence", texts (idsOf card.evidence))]) cards)),
      ("warnings", texts warnings)]
  | .quiz questions =>
    .obj [("title", .str request.purpose),
      ("questions", .arr (numbered (fun index item => .obj [("id", numberedId "quiz" index),
        ("question", .str item.question), ("options", texts item.options),
        ("answer_index", .num (ReadableNumber.ofInt item.answerIndex)),
        ("explanation", .str item.explanation), ("evidence", texts (idsOf item.evidence))]) questions)),
      ("warnings", texts warnings)]

/-- `TypedStudioResult`. `content` is what `contentJson` was dumped from. -/
structure TypedStudioResult (ν : Type) where
  content : Option (Content ν)
  contentJson : Option String
  citedChunkIds : List String
  insufficient : Bool
  nextActions : List String

def fixedNextActions : List String :=
  ["선택한 기간을 확인할 자료를 추가해 주세요.", "선택한 기준을 확인할 자료를 추가해 주세요.",
    "선택한 비교 대상의 자료를 추가해 주세요.", "선택한 항목의 수치와 단위를 확인할 자료를 추가해 주세요.",
    "선택한 관계를 확인할 자료를 추가해 주세요.", "선택한 자료를 보완해 주세요.",
    "원문 기준과 기록을 검토해 주세요."]

def nextAction (value : Json ν) : Option String := do
  let text ← text_ 120 value
  guard (text ∈ fixedNextActions)
  return text

def citedChunks (evidence : List (Chunk ν)) (value : Json ν) : Option (List (Chunk ν)) := do
  let values ← items_ 0 10 value
  let ids ← texts_ values
  guard ids.Nodup
  ids.mapM (chunkOf evidence)

def bool? : Json ν → Option Bool
  | .bool b => some b
  | _ => none

def isNull : Json ν → Bool
  | .null => true
  | _ => false

def parseTypedOutput (p : Reading ν) (request : StudioGenerationRequest) (raw : Raw ν)
    (evidence : List (Json ν)) (lineage : Lineage) : Option (TypedStudioResult ν) := do
  guard (request.outputType ∈ supportedTypes)
  let _ ← text_ 128 (Json.str lineage.requestId : Json ν)
  let _ ← text_ 255 (Json.str lineage.modelId : Json ν)
  let value ← load p raw
  let field ← exact ["content", "cited_chunk_ids", "insufficient", "next_actions"] value
  let insufficient ← bool? (field "insufficient")
  let chunks ← readEvidence [] evidence
  let actions ← (items_ 0 4 (field "next_actions")).bind (List.mapM nextAction)
  let cited ← citedChunks chunks (field "cited_chunk_ids")
  if insufficient then
    guard (isNull (field "content") = true ∧ cited = [] ∧ actions ≠ [])
    return ⟨none, none, [], true, actions⟩
  else
    guard (cited ≠ [])
    let content ← readContent p chunks cited (field "content") request.outputType
    let used := idsOf content.references
    guard (idsOf cited ⊆ used ∧ used ⊆ idsOf cited)
    return ⟨some content, some (content.json request lineage actions).canonical,
      (idsOf cited).filter (· ∈ used), false, actions⟩

end Reading

end DaonUser.Studio
