import DaonUser.QuestionAnswering.Model

/-!
# Question answering: the adapters

`generate` and `generate_general` of the OpenAI-compatible, the Messages and the Ollama adapter, on what
their transport returns or raises.
-/

namespace DaonUser.QuestionAnswering

abbrev Members := List (String × Value)

abbrev Posted := Except Raised Members

/-- The adapters. `UpstageTextGenerationAdapter` is the first one by another name. -/
inductive Adapter where
  | openAICompatible
  | anthropicMessages
  | ollama

/-! ## Reading a response -/

/-- `value` or `json.loads(value)`. -/
def loaded (prim : Primitives) (raw : Value) : Except Raised Value :=
  match raw with
  | .str text => prim.loads text
  | raw => .ok raw

/-- `{key: int(value) for key, value in usage.items() if isinstance(value, int)}`. -/
def intUsage (usage : Value) : Except Raised (List (String × Int)) :=
  match usage with
  | .dict members => .ok (members.filterMap fun m =>
      match m.2 with
      | .int n => some (m.1, n)
      | .bool b => some (m.1, if b then 1 else 0)
      | _ => none)
  | _ => .error .attribute

/-- The `except` clause of `generate`. -/
def caught {α : Type} (x : Except Raised α) : Except Raised α :=
  match x with
  | .error (.value text) =>
    if text = "TEXT_GENERATION_GROUNDING_INVALID" then invalidGrounding else invalidResponse
  | .error .key => invalidResponse
  | .error .index => invalidResponse
  | .error .type => invalidResponse
  | x => x

/-- The `except` clause of `generate_general`. -/
def caughtGeneral {α : Type} (x : Except Raised α) : Except Raised α :=
  match x with
  | .error (.value _) => invalidResponse
  | .error .key => invalidResponse
  | .error .index => invalidResponse
  | .error .type => invalidResponse
  | x => x

/-- `response["choices"][0]["message"]`. -/
def choiceMessage (response : Members) : Except Raised Value := do
  let choices ← (Value.dict response).item "choices"
  let choice ← choices.first
  choice.item "message"

/-- The text blocks of a `content`, if there are no others. -/
def textBlocks? : List Value → Option (List String)
  | [] => some []
  | .dict block :: rest =>
    match Value.get? block "type", Value.get? block "text" with
    | some (.str "text"), some (.str text) => (textBlocks? rest).map (text :: ·)
    | _, _ => none
  | _ :: _ => none

/-- What `AnthropicMessagesTextGenerationAdapter._post` makes of the response. -/
def messagesResponse (response : Members) : Except Raised Members :=
  match Value.get? response "content" with
  | some (.list content) =>
    match content, textBlocks? content with
    | _ :: _, some blocks => .ok
        [("choices", .list [.dict [("message", .dict [("content", .str (String.join blocks))])]]),
          ("usage", (Value.get? response "usage").getD (.dict []))]
    | _, _ => invalidResponse
  | _ => invalidResponse

/-! ## Currencies -/

/-- A character that `[A-Za-z]` matches where the case is ignored. -/
def currencyLetter (c : Char) : Bool := c.isAlpha || "İıſK".toList.contains c

def matchesLetter (letter c : Char) : Bool :=
  c.toUpper = letter || (letter = 'S' && c = 'ſ') || (letter = 'K' && c = 'K')

def codeAt (cs : List Char) : Option String :=
  match cs with
  | a :: b :: c :: rest =>
    if (["KRW", "USD", "EUR", "GBP"].any fun code =>
        match code.toList with
        | [x, y, z] => matchesLetter x a && matchesLetter y b && matchesLetter z c
        | _ => false) && !rest.head?.any currencyLetter then
      some (String.ofList ([a, b, c].map fun c => if c = 'ſ' then 'S' else c.toUpper))
    else none
  | _ => none

def codes : Bool → List Char → List String
  | _, [] => []
  | afterLetter, c :: cs =>
    (if afterLetter then [] else (codeAt (c :: cs)).toList) ++ codes (currencyLetter c) cs

def currencies (text : String) : List String :=
  codes false text.toList ++
    ([('₩', "KRW"), ('$', "USD"), ('€', "EUR"), ('£', "GBP")].filter
      (text.toList.contains ·.1)).map (·.2)

/-! ## The calls -/

def citedText (request : GroundedQuestionRequest) (cited : List String) : String :=
  "\n".intercalate ((request.evidence.filter (cited.contains ·.chunkId)).map (·.text))

/-- The checks of `generate` after the response was read. -/
def checkAnswer (prim : Primitives) (request : GroundedQuestionRequest) (fields : GroundedFields) :
    Except Raised PUnit :=
  let answer := strip fields.answer
  if answer = "" ∨ 8000 < len answer ∨ ¬fields.citedChunkIds.Nodup ∨
      (∃ id ∈ fields.citedChunkIds, id ∉ request.evidence.map (·.chunkId)) ∨
      (fields.insufficient ∧ fields.citedChunkIds ≠ []) ∨
      (¬fields.insufficient ∧ fields.citedChunkIds = []) ∨
      ¬anchored prim answer (citedText request fields.citedChunkIds) then invalidGrounding
  else .ok ⟨⟩

/-- `OpenAICompatibleTextGenerationAdapter.generate`. -/
def generateChat (prim : Primitives) (request : GroundedQuestionRequest) (posted : Posted) :
    Except Raised GroundedTextResult := do
  let response ← posted
  let (parsed, fields, usage) ← caught do
    let message ← choiceMessage response
    let parsed ← loaded prim (← message.item "content")
    let fields ← validateGrounded parsed
    let usage ← intUsage ((Value.get? response "usage").getD (.dict []))
    return (parsed, fields, usage)
  checkAnswer prim request fields
  finalizeGroundedResult prim request parsed usage

def ofSlidesOrAudio (request : GroundedQuestionRequest) : Bool :=
  (request.evidence.all fun chunk => chunk.locatorKind = "pptx_block") ||
    request.evidence.all fun chunk => chunk.locatorKind = "audio_segment"

/-- The `usage` of an Ollama response. -/
def ollamaUsage (prim : Primitives) (response : Members) : Except Raised (List (String × Int)) := do
  let prompt ← prim.int ((Value.get? response "prompt_eval_count").getD (.int 0))
  let completion ← prim.int ((Value.get? response "eval_count").getD (.int 0))
  return [("prompt_tokens", prompt), ("completion_tokens", completion)]

/-- `OllamaTextGenerationAdapter.generate`. -/
def generateOllama (prim : Primitives) (request : GroundedQuestionRequest) (posted : Posted) :
    Except Raised GroundedTextResult := do
  let response ← posted
  let (parsed, fields, usage) ← caught do
    let message ← (Value.dict response).item "message"
    let parsed ← loaded prim (← message.item "content")
    let fields ← validateGrounded parsed
    let usage ← ollamaUsage prim response
    return (parsed, fields, usage)
  checkAnswer prim request fields
  if ofSlidesOrAudio request ∧ ¬(currencies (strip fields.answer)).all
      (currencies (citedText request fields.citedChunkIds)).contains then invalidGrounding
  else finalizeGroundedResult prim request parsed usage

def generate (prim : Primitives) (adapter : Adapter) (request : GroundedQuestionRequest)
    (posted : Posted) : Except Raised GroundedTextResult :=
  match adapter with
  | .openAICompatible => generateChat prim request posted
  | .anthropicMessages => generateChat prim request (posted >>= messagesResponse)
  | .ollama => generateOllama prim request posted

/-- `OpenAICompatibleTextGenerationAdapter.generate_general`. -/
def generateGeneralChat (prim : Primitives) (request : GeneralConversationRequest)
    (posted : Posted) : Except Raised GroundedTextResult := do
  let response ← posted
  let (answer, usage) ← caughtGeneral do
    let message ← choiceMessage response
    let parsed ← loaded prim (← message.item "content")
    let answer ← validateGeneral parsed
    let usage ← intUsage ((Value.get? response "usage").getD (.dict []))
    return (strip answer, usage)
  if answer = "" ∨ 8000 < len answer then invalidResponse
  else return finalizeGeneralResult prim request answer usage

/-- `OllamaTextGenerationAdapter.generate_general`, which takes any value for a text. -/
def generateGeneralOllama (prim : Primitives) (request : GeneralConversationRequest)
    (posted : Posted) : Except Raised GroundedTextResult := do
  let response ← posted
  let (answer, usage) ← caughtGeneral do
    let message ← (Value.dict response).item "message"
    let parsed ← loaded prim (← message.item "content")
    let members ← match parsed with
      | .dict members => if hasFields members ["answer"] then .ok members else invalidResponse
      | _ => .error .type
    let answer ← (Value.dict members).item "answer"
    let usage ← ollamaUsage prim response
    return (strip (prim.str answer), usage)
  if answer = "" ∨ 8000 < len answer then invalidResponse
  else return finalizeGeneralResult prim request answer usage

def generateGeneral (prim : Primitives) (adapter : Adapter) (request : GeneralConversationRequest)
    (posted : Posted) : Except Raised GroundedTextResult :=
  match adapter with
  | .openAICompatible => generateGeneralChat prim request posted
  | .anthropicMessages => generateGeneralChat prim request (posted >>= messagesResponse)
  | .ollama => generateGeneralOllama prim request posted

end DaonUser.QuestionAnswering
