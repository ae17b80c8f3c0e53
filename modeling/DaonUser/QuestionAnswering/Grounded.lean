import DaonUser.Lib.Call
import DaonUser.QuestionAnswering.Adapters

/-!
# Question answering: no text of the model is shown

Whatever a provider answers, a result is made of whole texts of the evidence and of fixed sentences
(`Grounded`): what the model wrote decides only which of them.
-/

namespace DaonUser.QuestionAnswering

open Lib

variable {prim : Primitives} {request : GroundedQuestionRequest} {result : GroundedTextResult}

/-! ## The quotes -/

theorem length_intercalate (separator : String) (texts : List String) :
    len (separator.intercalate texts) =
      (texts.map len).sum + len separator * (texts.length - 1) := by
  induction texts with
  | nil => rfl
  | cons text texts ih =>
    cases texts with
    | nil => simp [len]
    | cons next rest =>
      rw [String.intercalate_cons_cons]
      simp only [len, String.toList_append, List.length_append, List.map_cons, List.sum_cons,
        List.length_cons, Nat.add_sub_cancel] at ih ⊢
      rw [ih, Nat.mul_add]
      omega

theorem quoted_le (chunks : List IndexedEvidenceChunk) {length : Nat} (h : length ≤ 8000) :
    length + ((quoted chunks length).map fun chunk => len chunk.text + 4).sum ≤ 8000 := by
  induction chunks generalizing length with
  | nil => simpa [quoted] using h
  | cons chunk rest ih =>
    unfold quoted
    split
    · exact ih h
    · next hfits =>
      rw [not_or, not_lt] at hfits
      have hrest := ih hfits.2
      rw [List.map_cons, List.sum_cons]
      omega

theorem quoted_sublist (chunks : List IndexedEvidenceChunk) (length : Nat) :
    (quoted chunks length).Sublist chunks := by
  induction chunks generalizing length with
  | nil => exact List.Sublist.slnil
  | cons chunk rest ih =>
    unfold quoted
    split
    · exact (ih length).cons chunk
    · exact (ih _).cons_cons chunk

theorem len_quotes (chunks : List IndexedEvidenceChunk) :
    len (quotes chunks) ≤ (chunks.map fun chunk => len chunk.text + 4).sum := by
  have hquote : ∀ chunk : IndexedEvidenceChunk,
      len ("「" ++ chunk.text ++ "」") = len chunk.text + 2 := by
    intro chunk
    simp [len]
  have hseparated : ∀ cs : List IndexedEvidenceChunk,
      (cs.map fun chunk => len chunk.text + 2).sum + 2 * cs.length =
        (cs.map fun chunk => len chunk.text + 4).sum := by
    intro cs
    induction cs with
    | nil => rfl
    | cons c cs ih =>
      simp only [List.map_cons, List.sum_cons, List.length_cons]
      omega
  rw [quotes, length_intercalate, List.map_map, List.length_map, ← hseparated]
  simp only [Function.comp_def, hquote]
  have hseparator : len "\n\n" = 2 := by decide
  rw [hseparator]
  omega

/-! ## What a result shows -/

def Cites (request : GroundedQuestionRequest) (ids : List String)
    (chunks : List IndexedEvidenceChunk) : Prop :=
  ids = chunks.map (·.chunkId) ∧ ∀ chunk ∈ chunks, chunk ∈ request.evidence

inductive Shows (chunks : List IndexedEvidenceChunk) (answer : String) : Prop
  | missing (empty : chunks = []) (fixed : answer = groundingMissingAnswer)
  | lines (cites : chunks ≠ [])
      (texts : answer = "\n".intercalate (chunks.map fun chunk => strip chunk.text))
  | paragraphs (cites : chunks ≠ [])
      (texts : answer = "\n\n".intercalate (chunks.map fun chunk => strip chunk.text))
  | quotes (cites : chunks ≠ []) (texts : answer = quotePrefix ++ quotes chunks)

/-- The result shows the whole texts of the chunks that it cites, and nothing else but fixed text. -/
structure Grounded (request : GroundedQuestionRequest) (result : GroundedTextResult) : Prop where
  shows : ∃ chunks, Cites request result.citedChunkIds chunks ∧ Shows chunks result.answer
  nodup : result.citedChunkIds.Nodup
  length : len result.answer ≤ 8000

theorem byId_some {evidence : List IndexedEvidenceChunk} {id : String} {chunk : IndexedEvidenceChunk}
    (h : byId evidence id = some chunk) : chunk ∈ evidence ∧ chunk.chunkId = id := by
  have hmem := List.mem_of_find?_eq_some h
  have hid := List.find?_some h
  exact ⟨List.mem_reverse.1 hmem, of_decide_eq_true hid⟩

theorem cites_filterMap {ids : List String}
    (h : ids.all (fun id => (byId request.evidence id).isSome) = true) :
    Cites request ids (ids.filterMap (byId request.evidence)) := by
  refine ⟨?_, fun chunk hchunk => ?_⟩
  · induction ids with
    | nil => rfl
    | cons id ids ih =>
      rw [List.all_cons, Bool.and_eq_true, Option.isSome_iff_exists] at h
      obtain ⟨⟨chunk, hchunk⟩, hrest⟩ := h
      rw [List.filterMap_cons_some hchunk, List.map_cons, ← ih hrest, (byId_some hchunk).2]
  · obtain ⟨id, -, hid⟩ := List.mem_filterMap.1 hchunk
    exact (byId_some hid).1

theorem validateGrounded_eq_ok {parsed : Value} {fields : GroundedFields}
    (h : validateGrounded parsed = .ok fields) : fields.consistent = true := by
  unfold validateGrounded at h
  split at h
  · cases h
  · split at h
    · next hconsistent =>
      obtain rfl := Except.ok.inj h
      exact hconsistent
    · cases h

theorem grounded_missing (request : GroundedQuestionRequest) (usage : List (String × Int)) :
    Grounded request (missingResult usage) where
  shows := ⟨[], ⟨rfl, by simp⟩, .missing rfl rfl⟩
  nodup := .nil
  length := by
    have hfixed : len groundingMissingAnswer ≤ 8000 := by decide
    exact hfixed

theorem grounded_projectResult {fields : GroundedFields} {cited : List IndexedEvidenceChunk}
    (hconsistent : fields.consistent = true) (hcites : Cites request fields.citedChunkIds cited)
    (usage : List (String × Int)) : Grounded request (projectResult fields cited usage) := by
  simp only [GroundedFields.consistent, Bool.and_eq_true, decide_eq_true_eq] at hconsistent
  obtain ⟨⟨⟨-, hlength⟩, hnodup⟩, -⟩ := hconsistent
  unfold projectResult
  dsimp only
  split
  · exact grounded_missing request usage
  · split
    · next hexact =>
      obtain ⟨⟨hsome, -, htexts⟩, -⟩ := hexact
      rw [ne_eq, List.map_eq_nil_iff] at hsome
      rw [List.map_map] at htexts
      refine ⟨⟨cited, hcites, ?_⟩, hnodup, hlength⟩
      rcases htexts with hlines | hparagraphs
      · exact .lines hsome hlines
      · exact .paragraphs hsome hparagraphs
    · split
      · exact grounded_missing request usage
      · next hshown =>
        have hsublist := quoted_sublist cited (len quotePrefix)
        refine ⟨⟨_, ⟨rfl, fun chunk hchunk => hcites.2 chunk (hsublist.subset hchunk)⟩,
          .quotes hshown rfl⟩, ?_, ?_⟩
        · rw [hcites.1] at hnodup
          exact hnodup.sublist (hsublist.map _)
        · have hprefix : len quotePrefix ≤ 8000 := by decide +kernel
          have hquoted := quoted_le cited hprefix
          have hquotes := len_quotes (quoted cited (len quotePrefix))
          simp only [len, String.toList_append, List.length_append] at hquoted hquotes ⊢
          omega

theorem finalizeGroundedResult_grounded {parsed : Value} {usage : List (String × Int)}
    (h : finalizeGroundedResult prim request parsed usage = .ok result) :
    Grounded request result := by
  obtain ⟨fields, hfields, h⟩ := Call.bind_eq_ok.1 h
  split at h
  · cases h
  · next hsupplied =>
    dsimp only at h
    split at h
    · cases h
    · obtain rfl := Except.ok.inj h
      exact grounded_projectResult (validateGrounded_eq_ok hfields)
        (cites_filterMap (not_not.1 hsupplied)) usage

def fixedSentences : List String :=
  ["감사합니다. 도움이 필요하시면 말씀해 주세요.", "도움이 되었다니 기쁩니다.",
    "Source를 선택하고 질문해 주세요. 자료를 바탕으로 결과물을 만들려면 지원되는 Studio 유형을 선택할 수 있습니다.",
    "안녕하세요. 무엇을 도와드릴까요?", "안녕하세요.", "안녕하세요!", "반갑습니다."]

theorem approvedSentences_subset (normalized : String) :
    (approvedSentences normalized).1 :: (approvedSentences normalized).2 ⊆ fixedSentences := by
  unfold approvedSentences
  split
  · decide +kernel
  · split
    · decide +kernel
    · decide +kernel

theorem answer_finalizeGeneralResult (prim : Primitives) (request : GeneralConversationRequest)
    (answer : String) (usage : List (String × Int)) :
    (finalizeGeneralResult prim request answer usage).answer ∈ fixedSentences := by
  unfold finalizeGeneralResult
  simp only
  split
  · next happroved => exact approvedSentences_subset _ happroved
  · exact approvedSentences_subset _ List.mem_cons_self

/-! ## The adapters -/

theorem generateChat_grounded {posted : Posted} (h : generateChat prim request posted = .ok result) :
    Grounded request result := by
  obtain ⟨response, -, h⟩ := Call.bind_eq_ok.1 h
  obtain ⟨⟨parsed, fields, usage⟩, -, h⟩ := Call.bind_eq_ok.1 h
  obtain ⟨-, -, h⟩ := Call.bind_eq_ok.1 h
  exact finalizeGroundedResult_grounded h

theorem generateOllama_grounded {posted : Posted}
    (h : generateOllama prim request posted = .ok result) : Grounded request result := by
  obtain ⟨response, -, h⟩ := Call.bind_eq_ok.1 h
  obtain ⟨⟨parsed, fields, usage⟩, -, h⟩ := Call.bind_eq_ok.1 h
  obtain ⟨-, -, h⟩ := Call.bind_eq_ok.1 h
  split at h
  · cases h
  · exact finalizeGroundedResult_grounded h

theorem generateGeneralChat_fixed {request : GeneralConversationRequest} {posted : Posted}
    (h : generateGeneralChat prim request posted = .ok result) : result.answer ∈ fixedSentences := by
  obtain ⟨response, -, h⟩ := Call.bind_eq_ok.1 h
  obtain ⟨⟨answer, usage⟩, -, h⟩ := Call.bind_eq_ok.1 h
  dsimp only at h
  split at h
  · cases h
  · obtain rfl := Except.ok.inj h
    exact answer_finalizeGeneralResult ..

theorem generateGeneralOllama_fixed {request : GeneralConversationRequest} {posted : Posted}
    (h : generateGeneralOllama prim request posted = .ok result) :
    result.answer ∈ fixedSentences := by
  obtain ⟨response, -, h⟩ := Call.bind_eq_ok.1 h
  obtain ⟨⟨answer, usage⟩, -, h⟩ := Call.bind_eq_ok.1 h
  dsimp only at h
  split at h
  · cases h
  · obtain rfl := Except.ok.inj h
    exact answer_finalizeGeneralResult ..

/-- With every adapter and whatever the provider answers, a grounded answer shows whole texts of the
evidence or a fixed sentence, and an answer of daily conversation is a fixed sentence. -/
theorem answers_grounded (prim : Primitives) (adapter : Adapter) (posted : Posted) :
    (∀ request result, generate prim adapter request posted = .ok result →
      Grounded request result) ∧
    ∀ request result, generateGeneral prim adapter request posted = .ok result →
      result.answer ∈ fixedSentences := by
  cases adapter with
  | openAICompatible =>
    exact ⟨fun _ _ => generateChat_grounded, fun _ _ => generateGeneralChat_fixed⟩
  | anthropicMessages =>
    exact ⟨fun _ _ => generateChat_grounded, fun _ _ => generateGeneralChat_fixed⟩
  | ollama => exact ⟨fun _ _ => generateOllama_grounded, fun _ _ => generateGeneralOllama_fixed⟩

namespace Sample

def primitives : Primitives where
  loads _ := .error (.value "Expecting value")
  int value :=
    match value with
    | .int n => .ok n
    | _ => .error .type
  str _ := ""
  casefold value := value
  evidenceAnchors _ := []

def question : GroundedQuestionRequest where
  question := "When?"
  evidence := [⟨"chunk-1", "On Monday.", "page"⟩, ⟨"chunk-2", "At noon.", "page"⟩]
  traceId := "trace-1"
  asked := by decide
  traced := by decide
  supported := by decide

def written : Value :=
  .dict [("answer", .str "Monday noon"), ("cited_chunk_ids", .list [.str "chunk-1", .str "chunk-2"]),
    ("insufficient", .bool false), ("grounding_status", .str "sufficient"),
    ("next_actions", .list [])]

def posted : Posted := .ok [("message", .dict [("content", written)])]

def shown : GroundedTextResult where
  answer := quotePrefix ++ "「On Monday.」\n\n「At noon.」"
  citedChunkIds := ["chunk-1", "chunk-2"]
  insufficient := false
  usage := [("prompt_tokens", 0), ("completion_tokens", 0)]
  groundingStatus := .partly
  nextActions := groundingActions

end Sample

/-- The words of the model are not shown, the chunks that it cites are. -/
theorem shown_grounded : Grounded Sample.question Sample.shown :=
  (answers_grounded Sample.primitives .ollama Sample.posted).1 Sample.question Sample.shown
    (Call.ok_of_toOption (by decide +kernel))

end DaonUser.QuestionAnswering
