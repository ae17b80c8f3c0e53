import DaonUser.Lib.Lists
import DaonUser.Studio.Typed

/-!
# No text of the model is published

Whatever a model has written, the content of an output is made of the chunks that it cites: bodies are whole
texts of them, headings are fixed or found in them, and so on (`Supported`). What the model wrote decides
only which of them.
-/

namespace DaonUser.Studio

open Lib
open QuestionAnswering (strip len)

section Supported

variable {ν : Type}

/-! ## The parts of a content -/

def Content.bodies : Content ν → List String
  | .report summary body conclusion _ => [summary, body, conclusion]
  | .checklist items => items.flatMap fun item => [item.criterion, item.observation]
  | .table rows => rows.flatMap fun row => [row.baseline, row.current]
  | .map _ edges => edges.map (·.condition)
  | .draft sections => sections.map (·.body)
  | .slides sections => sections.map (·.body)
  | .infographic summary metrics =>
    summary :: (metrics.filter fun metric => !numeric.fullmatch metric.value).map (·.value)
  | .flashcards cards => cards.map (·.answer)
  | .quiz questions => questions.flatMap fun item =>
    item.options[item.answerIndex]?.toList ++ [item.explanation]

def Content.headings : Content ν → List String
  | .report _ _ _ _ => []
  | .checklist _ => []
  | .table rows => rows.map (·.key)
  | .map nodes _ => nodes.map (·.label)
  | .draft sections => sections.map (·.title)
  | .slides sections => sections.map (·.title)
  | .infographic _ metrics => metrics.map (·.label)
  | .flashcards _ => []
  | .quiz _ => []

def Content.questions : Content ν → List String
  | .flashcards cards => cards.map (·.question)
  | .quiz questions => questions.map (·.question)
  | _ => []

def Content.checks : Content ν → List (CheckItem ν)
  | .checklist items => items
  | _ => []

def Content.metrics : Content ν → List (Metric ν)
  | .infographic _ metrics => metrics
  | _ => []

def Content.wrongOptions : Content ν → List String
  | .quiz questions => questions.flatMap fun item => item.options.eraseIdx item.answerIndex
  | _ => []

/-- The text is one or more of the chunks, one a line or one a paragraph. -/
def Quotes (cited : List (Chunk ν)) (text : String) : Prop :=
  ∃ chunks, chunks ≠ [] ∧ chunks ⊆ cited ∧ IsQuote chunks text

/-- A heading in the frame of a question, where a line end may follow. -/
def Framed (cited : List (Chunk ν)) (text : String) : Prop :=
  ∃ start core rest tail, text.toList = start ++ (core ++ (rest ++ tail)) ∧
    (start = [] ∨ start ∈ frameStart.language) ∧ (rest = [] ∨ rest ∈ frameEnd.language) ∧
    (tail = [] ∨ tail = ['\n']) ∧ IsHeading cited (String.ofList core)

/-- The metric's only chunk is its label, a separator and its value, with blanks around them. -/
def Metric.Exact (metric : Metric ν) : Prop :=
  ∃ chunk before after between separator last, metric.evidence = [chunk] ∧
    chunk.text.toList = before ++ (metric.label.toList ++ (after ++ (separator ::
      (between ++ (metric.value.toList ++ last))))) ∧
    (separator = ':' ∨ separator = '=') ∧ ∀ c ∈ before ++ after ++ between ++ last, isSpace c = true

structure Supported (chunks : List (Chunk ν)) (citedIds : List String) (content : Content ν) : Prop where
  nodup : citedIds.Nodup
  supplied : content.references ⊆ chunks
  union : ∀ id, id ∈ citedIds ↔ id ∈ idsOf content.references
  bodies : ∀ text ∈ content.bodies, Quotes content.references text
  headings : ∀ text ∈ content.headings, IsHeading content.references text
  questions : ∀ text ∈ content.questions, Framed content.references text
  actions : ∀ item ∈ content.checks, item.action ∈ fixedActions ∨
    IsQuote [item.criterionChunk, item.observationChunk] item.action
  metrics : ∀ metric ∈ content.metrics, numeric.fullmatch metric.value = true → metric.Exact
  wrongOptions : ∀ text ∈ content.wrongOptions, startsWith text "교육용 오답:" = true

theorem Quotes.mono {chunks cited : List (Chunk ν)} {text : String} (h : Quotes chunks text)
    (hsub : chunks ⊆ cited) : Quotes cited text := by
  obtain ⟨quoted, hne, hquoted, htext⟩ := h
  exact ⟨quoted, hne, List.Subset.trans hquoted hsub, htext⟩

theorem IsHeading.mono {chunks cited : List (Chunk ν)} {text : String} (h : IsHeading chunks text)
    (hsub : chunks ⊆ cited) : IsHeading cited text := by
  rcases h with hfixed | ⟨chunk, hchunk, hin⟩
  · exact .inl hfixed
  · exact .inr ⟨chunk, hsub hchunk, hin⟩

theorem Framed.mono {chunks cited : List (Chunk ν)} {text : String} (h : Framed chunks text)
    (hsub : chunks ⊆ cited) : Framed cited text := by
  obtain ⟨start, core, rest, tail, htext, hstart, hrest, htail, hheading⟩ := h
  exact ⟨start, core, rest, tail, htext, hstart, hrest, htail, hheading.mono hsub⟩

/-! ## Reading -/

theorem mem_of_mapM {α β : Type} {f : α → Option β} {xs : List α} {ys : List β}
    (h : xs.mapM f = some ys) : ys.length = xs.length ∧ ∀ y ∈ ys, ∃ x ∈ xs, f x = some y := by
  induction xs generalizing ys with
  | nil =>
    obtain rfl := Option.some.inj h
    exact ⟨rfl, by simp⟩
  | cons x xs ih =>
    rw [List.mapM_cons] at h
    obtain ⟨y, hy, hys⟩ := Option.bind_eq_some_iff.1 h
    obtain ⟨rest, hrest, heq⟩ := Option.bind_eq_some_iff.1 hys
    obtain rfl := Option.some.inj heq
    obtain ⟨hlength, hmem⟩ := ih hrest
    refine ⟨by rw [List.length_cons, List.length_cons, hlength], List.forall_mem_cons.2 ⟨?_, ?_⟩⟩
    · exact ⟨x, List.mem_cons_self, hy⟩
    · intro z hz
      obtain ⟨w, hw, hwz⟩ := hmem z hz
      exact ⟨w, List.mem_cons_of_mem x hw, hwz⟩

theorem le_length_of_items {minimum maximum : Nat} {value : Json ν} {items : List (Json ν)}
    (h : items_ minimum maximum value = some items) : minimum ≤ items.length := by
  unfold items_ at h
  split at h
  · split at h
    · next hlength =>
      obtain rfl := Option.some.inj h
      exact hlength.1
    · cases h
  · cases h

theorem listOf_spec {α : Type} {minimum : Nat} {f : Json ν → Option α} {value : Json ν} {xs : List α}
    (h : listOf minimum f value = some xs) : ∀ x ∈ xs, ∃ item, f item = some x := by
  obtain ⟨items, -, hxs⟩ := Option.bind_eq_some_iff.1 h
  intro x hx
  obtain ⟨item, -, hitem⟩ := (mem_of_mapM hxs).2 x hx
  exact ⟨item, hitem⟩

theorem le_length_of_listOf {α : Type} {minimum : Nat} {f : Json ν → Option α} {value : Json ν}
    {xs : List α} (h : listOf minimum f value = some xs) : minimum ≤ xs.length := by
  obtain ⟨items, hitems, hxs⟩ := Option.bind_eq_some_iff.1 h
  rw [(mem_of_mapM hxs).1]
  exact le_length_of_items hitems

variable {cited chunks : List (Chunk ν)} {value : Json ν} {text : String}

theorem chunkOf_eq_some {id : String} {chunk : Chunk ν} (h : chunkOf chunks id = some chunk) :
    chunk ∈ chunks ∧ chunk.chunkId = id :=
  ⟨List.mem_of_find?_eq_some h, by simpa using List.find?_some h⟩

theorem refs_spec (h : refs cited value = some chunks) : chunks ≠ [] ∧ chunks ⊆ cited := by
  obtain ⟨values, hvalues, h₁⟩ := Option.bind_eq_some_iff.1 h
  obtain ⟨ids, hids, h₂⟩ := Option.bind_eq_some_iff.1 h₁
  obtain ⟨-, hchunks⟩ := guard_bind_eq_some.1 h₂
  obtain ⟨hlength, hmem⟩ := mem_of_mapM hchunks
  refine ⟨fun hnil => ?_, fun chunk hchunk => ?_⟩
  · have hpos := le_length_of_items hvalues
    rw [← (mem_of_mapM hids).1, ← hlength, hnil] at hpos
    exact Nat.not_succ_le_zero 0 hpos
  · obtain ⟨id, -, hid⟩ := hmem chunk hchunk
    exact (chunkOf_eq_some hid).1

theorem ref_spec {chunk : Chunk ν} (h : ref cited value = some chunk) : chunk ∈ cited := by
  obtain ⟨id, -, hid⟩ := Option.bind_eq_some_iff.1 h
  exact (chunkOf_eq_some hid).1

theorem quote_spec (h : quote chunks value = some text) : IsQuote chunks text := by
  obtain ⟨read, -, h₁⟩ := Option.bind_eq_some_iff.1 h
  obtain ⟨hquote, h₂⟩ := guard_bind_eq_some.1 h₁
  obtain rfl := Option.some.inj h₂
  exact hquote

theorem quotes_of_quote (hne : chunks ≠ []) (h : quote chunks value = some text) :
    Quotes chunks text :=
  ⟨chunks, hne, List.Subset.refl chunks, quote_spec h⟩

theorem text_of_text_ {maximum : Nat} (h : text_ maximum value = some text) : value = .str text := by
  unfold text_ at h
  split at h
  · split at h
    · rw [Option.some.inj h]
    · cases h
  · cases h

theorem heading_spec (h : heading chunks value = some text) :
    value = .str text ∧ IsHeading chunks text := by
  obtain ⟨read, hread, h₁⟩ := Option.bind_eq_some_iff.1 h
  obtain ⟨hheading, h₂⟩ := guard_bind_eq_some.1 h₁
  obtain rfl := Option.some.inj h₂
  exact ⟨text_of_text_ hread, hheading⟩

theorem action_spec (h : action chunks value = some text) :
    text ∈ fixedActions ∨ IsQuote chunks text := by
  obtain ⟨read, -, h₁⟩ := Option.bind_eq_some_iff.1 h
  obtain ⟨hallowed, h₂⟩ := guard_bind_eq_some.1 h₁
  obtain rfl := Option.some.inj h₂
  exact hallowed

theorem reportPart_spec (hne : chunks ≠ []) (h : reportPart chunks value = some text) :
    Quotes chunks text := by
  obtain ⟨read, -, h₁⟩ := Option.bind_eq_some_iff.1 h
  obtain ⟨hallowed, h₂⟩ := guard_bind_eq_some.1 h₁
  obtain rfl := Option.some.inj h₂
  rcases hallowed with hone | hall
  · obtain ⟨chunk, hchunk, htext⟩ := List.mem_map.1 hone
    refine ⟨[chunk], List.cons_ne_nil _ _, ?_, .inl ?_⟩
    · exact List.cons_subset.2 ⟨hchunk, List.nil_subset _⟩
    · rw [← htext, List.map_singleton, String.intercalate_singleton]
  · exact ⟨chunks, hne, List.Subset.refl chunks, hall⟩

theorem not_mem_fixedHeadings (core : List Char) :
    String.ofList (core ++ ['\n']) ∉ fixedHeadings := by
  intro h
  have hends : ∀ s ∈ fixedHeadings, s.toList.getLast? ≠ some '\n' := by decide
  refine hends _ h ?_
  rw [String.toList_ofList, List.getLast?_concat]

theorem isHeading_core {core tail : List Char} (htail : tail = [] ∨ tail = ['\n'])
    (h : IsHeading chunks (String.ofList (core ++ tail))) : IsHeading chunks (String.ofList core) := by
  rcases htail with rfl | rfl
  · rwa [List.append_nil] at h
  · rcases h with hfixed | ⟨chunk, hchunk, hin⟩
    · exact absurd hfixed (not_mem_fixedHeadings core)
    · refine .inr ⟨chunk, hchunk, List.IsInfix.trans ?_ hin⟩
      rw [String.toList_ofList, String.toList_ofList]
      exact (List.prefix_append core ['\n']).isInfix

theorem question_spec (h : question chunks value = some text) : Framed chunks text := by
  obtain ⟨read, -, h₁⟩ := Option.bind_eq_some_iff.1 h
  obtain ⟨inner, hinner, h₂⟩ := Option.bind_eq_some_iff.1 h₁
  obtain rfl := Option.some.inj h₂
  obtain ⟨start, hstarts, hstart⟩ := frameStart.dropStart_spec read.toList
  obtain ⟨core, rest, tail, hdropped, hstem, hrest, htail⟩ :=
    frameEnd.dropEnd_spec (frameStart.dropStart read.toList)
  refine ⟨start, core, rest, tail, ?_, hstart, hrest, htail, isHeading_core htail ?_⟩
  · rw [hstarts, hdropped]
  · obtain ⟨hsame, hheading⟩ := heading_spec hinner
    rw [← hstem]
    rwa [← Json.str.inj hsame] at hheading

/-! ## The items -/

/-- What is known of a content that was read, before it is compared with what was cited. -/
structure Made (cited : List (Chunk ν)) (content : Content ν) : Prop where
  cited : content.references ⊆ cited
  bodies : ∀ text ∈ content.bodies, Quotes content.references text
  headings : ∀ text ∈ content.headings, IsHeading content.references text
  questions : ∀ text ∈ content.questions, Framed content.references text
  actions : ∀ item ∈ content.checks, item.action ∈ fixedActions ∨
    IsQuote [item.criterionChunk, item.observationChunk] item.action
  metrics : ∀ metric ∈ content.metrics, numeric.fullmatch metric.value = true → metric.Exact
  wrongOptions : ∀ text ∈ content.wrongOptions, startsWith text "교육용 오답:" = true

theorem subset_flatMap {α β : Type} {xs : List α} {f : α → List β} {x : α} (h : x ∈ xs) :
    f x ⊆ xs.flatMap f := fun _ hy => List.mem_flatMap.2 ⟨x, h, hy⟩

theorem flatMap_subset {α : Type} {xs : List α} {f : α → List (Chunk ν)}
    (h : ∀ x ∈ xs, f x ⊆ cited) : xs.flatMap f ⊆ cited := by
  intro chunk hchunk
  obtain ⟨x, hx, hmem⟩ := List.mem_flatMap.1 hchunk
  exact h x hx hmem

theorem readReport_spec {value : Json ν} {content : Content ν}
    (h : readReport cited value = some content) : Made cited content := by
  obtain ⟨field, -, h₁⟩ := Option.bind_eq_some_iff.1 h
  obtain ⟨chunks, hchunks, h₂⟩ := Option.bind_eq_some_iff.1 h₁
  obtain ⟨summary, hsummary, h₃⟩ := Option.bind_eq_some_iff.1 h₂
  obtain ⟨body, hbody, h₄⟩ := Option.bind_eq_some_iff.1 h₃
  obtain ⟨conclusion, hconclusion, h₅⟩ := Option.bind_eq_some_iff.1 h₄
  obtain ⟨-, h₆⟩ := guard_bind_eq_some.1 h₅
  obtain rfl := Option.some.inj h₆
  obtain ⟨hne, hsub⟩ := refs_spec hchunks
  refine ⟨hsub, ?_, List.forall_mem_nil _, List.forall_mem_nil _, List.forall_mem_nil _,
    List.forall_mem_nil _, List.forall_mem_nil _⟩
  intro text htext
  simp only [Content.bodies, List.mem_cons, List.not_mem_nil, or_false] at htext
  rcases htext with rfl | rfl | rfl
  · exact reportPart_spec hne hsummary
  · exact reportPart_spec hne hbody
  · exact reportPart_spec hne hconclusion

theorem readCheckItem_spec {value : Json ν} {item : CheckItem ν}
    (h : readCheckItem cited value = some item) :
    [item.criterionChunk, item.observationChunk] ⊆ cited ∧
      IsQuote [item.criterionChunk] item.criterion ∧
      IsQuote [item.observationChunk] item.observation ∧
      (item.action ∈ fixedActions ∨
        IsQuote [item.criterionChunk, item.observationChunk] item.action) := by
  obtain ⟨field, -, h₁⟩ := Option.bind_eq_some_iff.1 h
  obtain ⟨criterionChunk, hcriterionChunk, h₂⟩ := Option.bind_eq_some_iff.1 h₁
  obtain ⟨observationChunk, hobservationChunk, h₃⟩ := Option.bind_eq_some_iff.1 h₂
  obtain ⟨criterion, hcriterion, h₄⟩ := Option.bind_eq_some_iff.1 h₃
  obtain ⟨observation, hobservation, h₅⟩ := Option.bind_eq_some_iff.1 h₄
  obtain ⟨-, h₆⟩ := guard_bind_eq_some.1 h₅
  obtain ⟨act, hact, h₇⟩ := Option.bind_eq_some_iff.1 h₆
  obtain ⟨-, h₈⟩ := guard_bind_eq_some.1 h₇
  obtain rfl := Option.some.inj h₈
  refine ⟨?_, quote_spec hcriterion, quote_spec hobservation, action_spec hact⟩
  exact List.cons_subset.2 ⟨ref_spec hcriterionChunk,
    List.cons_subset.2 ⟨ref_spec hobservationChunk, List.nil_subset _⟩⟩

theorem made_checklist {items : List (CheckItem ν)}
    (h : ∀ item ∈ items, ∃ value, readCheckItem cited value = some item) :
    Made cited (.checklist items) := by
  have hspec := fun item hitem => readCheckItem_spec (h item hitem).choose_spec
  refine ⟨flatMap_subset fun item hitem => (hspec item hitem).1, ?_, List.forall_mem_nil _,
    List.forall_mem_nil _, fun item hitem => (hspec item hitem).2.2.2, List.forall_mem_nil _,
    List.forall_mem_nil _⟩
  intro text htext
  obtain ⟨item, hitem, hmem⟩ := List.mem_flatMap.1 htext
  obtain ⟨-, hcriterion, hobservation, -⟩ := hspec item hitem
  have hall := subset_flatMap (f := fun item : CheckItem ν =>
    [item.criterionChunk, item.observationChunk]) hitem
  obtain ⟨hfirst, hsecond⟩ := List.cons_subset.1 hall
  simp only [List.mem_cons, List.not_mem_nil, or_false] at hmem
  rcases hmem with rfl | rfl
  · exact ⟨_, List.cons_ne_nil _ _, List.cons_subset.2 ⟨hfirst, List.nil_subset _⟩, hcriterion⟩
  · exact ⟨_, List.cons_ne_nil _ _, hsecond, hobservation⟩

theorem readRow_spec {value : Json ν} {row : Row ν} (h : readRow cited value = some row) :
    [row.baselineChunk, row.currentChunk] ⊆ cited ∧ IsQuote [row.baselineChunk] row.baseline ∧
      IsQuote [row.currentChunk] row.current ∧
      IsHeading [row.baselineChunk, row.currentChunk] row.key := by
  obtain ⟨field, -, h₁⟩ := Option.bind_eq_some_iff.1 h
  obtain ⟨baselineChunk, hbaselineChunk, h₂⟩ := Option.bind_eq_some_iff.1 h₁
  obtain ⟨currentChunk, hcurrentChunk, h₃⟩ := Option.bind_eq_some_iff.1 h₂
  obtain ⟨-, h₄⟩ := guard_bind_eq_some.1 h₃
  obtain ⟨baseline, hbaseline, h₅⟩ := Option.bind_eq_some_iff.1 h₄
  obtain ⟨current, hcurrent, h₆⟩ := Option.bind_eq_some_iff.1 h₅
  obtain ⟨key, hkey, h₇⟩ := Option.bind_eq_some_iff.1 h₆
  obtain rfl := Option.some.inj h₇
  refine ⟨?_, quote_spec hbaseline, quote_spec hcurrent, (heading_spec hkey).2⟩
  exact List.cons_subset.2 ⟨ref_spec hbaselineChunk,
    List.cons_subset.2 ⟨ref_spec hcurrentChunk, List.nil_subset _⟩⟩

theorem made_table {rows : List (Row ν)} (h : ∀ row ∈ rows, ∃ value, readRow cited value = some row) :
    Made cited (.table rows) := by
  have hspec := fun row hrow => readRow_spec (h row hrow).choose_spec
  refine ⟨flatMap_subset fun row hrow => (hspec row hrow).1, ?_, ?_, List.forall_mem_nil _,
    List.forall_mem_nil _, List.forall_mem_nil _, List.forall_mem_nil _⟩
  · intro text htext
    obtain ⟨row, hrow, hmem⟩ := List.mem_flatMap.1 htext
    obtain ⟨-, hbaseline, hcurrent, -⟩ := hspec row hrow
    have hall := subset_flatMap (f := fun row : Row ν => [row.baselineChunk, row.currentChunk]) hrow
    obtain ⟨hfirst, hsecond⟩ := List.cons_subset.1 hall
    simp only [List.mem_cons, List.not_mem_nil, or_false] at hmem
    rcases hmem with rfl | rfl
    · exact ⟨_, List.cons_ne_nil _ _, List.cons_subset.2 ⟨hfirst, List.nil_subset _⟩, hbaseline⟩
    · exact ⟨_, List.cons_ne_nil _ _, hsecond, hcurrent⟩
  · intro text htext
    obtain ⟨row, hrow, rfl⟩ := List.mem_map.1 htext
    exact (hspec row hrow).2.2.2.mono
      (subset_flatMap (f := fun row : Row ν => [row.baselineChunk, row.currentChunk]) hrow)

theorem readNode_spec {value : Json ν} {node : Node ν} (h : readNode cited value = some node) :
    node.evidence ⊆ cited ∧ IsHeading node.evidence node.label := by
  obtain ⟨field, -, h₁⟩ := Option.bind_eq_some_iff.1 h
  obtain ⟨chunks, hchunks, h₂⟩ := Option.bind_eq_some_iff.1 h₁
  obtain ⟨label, hlabel, h₃⟩ := Option.bind_eq_some_iff.1 h₂
  obtain rfl := Option.some.inj h₃
  exact ⟨(refs_spec hchunks).2, (heading_spec hlabel).2⟩

theorem readEdge_spec [ReadableNumber ν] {nodes : List (Node ν)} {value : Json ν} {edge : Edge ν}
    (h : readEdge cited nodes value = some edge) :
    edge.evidence ⊆ cited ∧ Quotes edge.evidence edge.condition := by
  obtain ⟨field, -, h₁⟩ := Option.bind_eq_some_iff.1 h
  obtain ⟨source, -, h₂⟩ := Option.bind_eq_some_iff.1 h₁
  obtain ⟨target, -, h₃⟩ := Option.bind_eq_some_iff.1 h₂
  obtain ⟨sourceNode, -, h₄⟩ := Option.bind_eq_some_iff.1 h₃
  obtain ⟨targetNode, -, h₅⟩ := Option.bind_eq_some_iff.1 h₄
  obtain ⟨-, h₆⟩ := guard_bind_eq_some.1 h₅
  obtain ⟨chunks, hchunks, h₇⟩ := Option.bind_eq_some_iff.1 h₆
  obtain ⟨condition, hcondition, h₈⟩ := Option.bind_eq_some_iff.1 h₇
  obtain ⟨-, h₉⟩ := guard_bind_eq_some.1 h₈
  obtain rfl := Option.some.inj h₉
  obtain ⟨hne, hsub⟩ := refs_spec hchunks
  exact ⟨hsub, quotes_of_quote hne hcondition⟩

theorem readMap_spec [ReadableNumber ν] {value : Json ν} {content : Content ν}
    (h : readMap cited value = some content) : Made cited content := by
  obtain ⟨field, -, h₁⟩ := Option.bind_eq_some_iff.1 h
  obtain ⟨nodes, hnodes, h₂⟩ := Option.bind_eq_some_iff.1 h₁
  obtain ⟨-, h₃⟩ := guard_bind_eq_some.1 h₂
  obtain ⟨edges, hedges, h₄⟩ := Option.bind_eq_some_iff.1 h₃
  obtain ⟨-, h₅⟩ := guard_bind_eq_some.1 h₄
  obtain rfl := Option.some.inj h₅
  have hnode := fun node hmem => readNode_spec (listOf_spec hnodes node hmem).choose_spec
  have hedge := fun edge hmem => readEdge_spec (listOf_spec hedges edge hmem).choose_spec
  refine ⟨?_, ?_, ?_, List.forall_mem_nil _, List.forall_mem_nil _, List.forall_mem_nil _,
    List.forall_mem_nil _⟩
  · exact List.append_subset.2 ⟨flatMap_subset fun node hmem => (hnode node hmem).1,
      flatMap_subset fun edge hmem => (hedge edge hmem).1⟩
  · intro text htext
    obtain ⟨edge, hmem, rfl⟩ := List.mem_map.1 htext
    exact (hedge edge hmem).2.mono (List.subset_append_of_subset_right _ (subset_flatMap hmem))
  · intro text htext
    obtain ⟨node, hmem, rfl⟩ := List.mem_map.1 htext
    exact (hnode node hmem).2.mono (List.subset_append_of_subset_left _ (subset_flatMap hmem))

theorem readSection_spec {value : Json ν} {item : Section_ ν}
    (h : readSection cited value = some item) :
    item.evidence ⊆ cited ∧ IsHeading item.evidence item.title ∧ Quotes item.evidence item.body := by
  obtain ⟨field, -, h₁⟩ := Option.bind_eq_some_iff.1 h
  obtain ⟨chunks, hchunks, h₂⟩ := Option.bind_eq_some_iff.1 h₁
  obtain ⟨title, htitle, h₃⟩ := Option.bind_eq_some_iff.1 h₂
  obtain ⟨body, hbody, h₄⟩ := Option.bind_eq_some_iff.1 h₃
  obtain rfl := Option.some.inj h₄
  obtain ⟨hne, hsub⟩ := refs_spec hchunks
  exact ⟨hsub, (heading_spec htitle).2, quotes_of_quote hne hbody⟩

theorem readSections_spec {collection : String} {value : Json ν} {sections : List (Section_ ν)}
    (h : readSections cited collection value = some sections) :
    sections.flatMap (·.evidence) ⊆ cited ∧
      (∀ text ∈ sections.map (·.body), Quotes (sections.flatMap (·.evidence)) text) ∧
      ∀ text ∈ sections.map (·.title), IsHeading (sections.flatMap (·.evidence)) text := by
  obtain ⟨field, -, h₁⟩ := Option.bind_eq_some_iff.1 h
  obtain ⟨read, hread, h₂⟩ := Option.bind_eq_some_iff.1 h₁
  obtain ⟨-, h₃⟩ := guard_bind_eq_some.1 h₂
  obtain rfl := Option.some.inj h₃
  have hspec := fun item hitem => readSection_spec (listOf_spec hread item hitem).choose_spec
  refine ⟨flatMap_subset fun item hitem => (hspec item hitem).1, ?_, ?_⟩
  · intro text htext
    obtain ⟨item, hitem, rfl⟩ := List.mem_map.1 htext
    exact (hspec item hitem).2.2.mono (subset_flatMap hitem)
  · intro text htext
    obtain ⟨item, hitem, rfl⟩ := List.mem_map.1 htext
    exact (hspec item hitem).2.1.mono (subset_flatMap hitem)

theorem labelled_spec {label value text : String} (h : (labelled label value).fullmatch text = true) :
    ∃ before after between separator last, text.toList = before ++ (label.toList ++ (after ++
      (separator :: (between ++ (value.toList ++ last))))) ∧
      (separator = ':' ∨ separator = '=') ∧
      ∀ c ∈ before ++ after ++ between ++ last, isSpace c = true := by
  obtain ⟨before, hbefore, w₁, h₁, hw⟩ := Language.mem_mul.1 (Regex.fullmatch_iff.1 h)
  obtain ⟨u, hlabel, w₂, h₂, rfl⟩ := Language.mem_mul.1 h₁
  obtain ⟨after, hafter, w₃, h₃, rfl⟩ := Language.mem_mul.1 h₂
  obtain ⟨v, ⟨separator, hseparator, rfl⟩, w₄, h₄, rfl⟩ := Language.mem_mul.1 h₃
  obtain ⟨between, hbetween, w₅, h₅, rfl⟩ := Language.mem_mul.1 h₄
  obtain ⟨x, hvalue, last, hlast, rfl⟩ := Language.mem_mul.1 h₅
  rw [Regex.mem_literal.1 hlabel, Regex.mem_literal.1 hvalue] at hw
  refine ⟨before, after, between, separator, last, hw.symm, ?_, ?_⟩
  · rwa [Bool.or_eq_true, decide_eq_true_eq, decide_eq_true_eq] at hseparator
  · intro c hc
    simp only [List.mem_append] at hc
    rcases hc with ((hc | hc) | hc) | hc
    · exact Regex.mem_star_one.1 hbefore c hc
    · exact Regex.mem_star_one.1 hafter c hc
    · exact Regex.mem_star_one.1 hbetween c hc
    · exact Regex.mem_star_one.1 hlast c hc

theorem readMetric_spec {p : Reading ν} {evidence : List (Chunk ν)} {value : Json ν}
    {metric : Metric ν} (h : readMetric p evidence cited value = some metric) :
    (metric.evidence ≠ [] ∧ metric.evidence ⊆ cited) ∧ IsHeading metric.evidence metric.label ∧
      (numeric.fullmatch metric.value = false → Quotes metric.evidence metric.value) ∧
      (numeric.fullmatch metric.value = true → metric.Exact) := by
  obtain ⟨field, -, h₁⟩ := Option.bind_eq_some_iff.1 h
  obtain ⟨chunks, hchunks, h₂⟩ := Option.bind_eq_some_iff.1 h₁
  obtain ⟨label, hlabel, h₃⟩ := Option.bind_eq_some_iff.1 h₂
  obtain ⟨text, -, h₄⟩ := Option.bind_eq_some_iff.1 h₃
  obtain ⟨⟨-, -, -, -, hallowed⟩, h₅⟩ := guard_bind_eq_some.1 h₄
  obtain rfl := Option.some.inj h₅
  have hchunks' := refs_spec hchunks
  refine ⟨hchunks', (heading_spec hlabel).2, fun hnumeric => ?_, fun hnumeric => ?_⟩
  · rw [if_pos hnumeric] at hallowed
    exact ⟨chunks, hchunks'.1, List.Subset.refl _, hallowed⟩
  · rw [if_neg (by rw [hnumeric]; decide)] at hallowed
    obtain ⟨chunk, rfl⟩ := List.length_eq_one_iff.1 hallowed.1
    obtain ⟨before, after, between, separator, last, htext, hseparator, hblank⟩ :=
      labelled_spec hallowed.2
    rw [joined, List.map_singleton, String.intercalate_singleton] at htext
    exact ⟨chunk, before, after, between, separator, last, rfl, htext, hseparator, hblank⟩

theorem filter_idsOf (hcited : (idsOf cited).Nodup) (hsub : chunks ⊆ cited) :
    chunks ⊆ cited.filter (fun chunk => chunk.chunkId ∈ idsOf chunks) ∧
      cited.filter (fun chunk => chunk.chunkId ∈ idsOf chunks) ⊆ chunks := by
  constructor
  · intro chunk hchunk
    rw [List.mem_filter, decide_eq_true_eq]
    exact ⟨hsub hchunk, List.mem_map_of_mem hchunk⟩
  · intro chunk hchunk
    rw [List.mem_filter, decide_eq_true_eq] at hchunk
    obtain ⟨other, hother, hid⟩ := List.mem_map.1 hchunk.2
    rwa [← List.inj_on_of_nodup_map hcited (hsub hother) hchunk.1 hid]

theorem readInfographic_spec {p : Reading ν} {evidence : List (Chunk ν)} {value : Json ν}
    {content : Content ν} (hcited : (idsOf cited).Nodup)
    (h : readInfographic p evidence cited value = some content) : Made cited content := by
  obtain ⟨field, -, h₁⟩ := Option.bind_eq_some_iff.1 h
  obtain ⟨metrics, hmetrics, h₂⟩ := Option.bind_eq_some_iff.1 h₁
  obtain ⟨summary, hsummary, h₃⟩ := Option.bind_eq_some_iff.1 h₂
  obtain rfl := Option.some.inj h₃
  have hspec := fun metric hmem => readMetric_spec (listOf_spec hmetrics metric hmem).choose_spec
  have hsub : metrics.flatMap (·.evidence) ⊆ cited :=
    flatMap_subset fun metric hmem => (hspec metric hmem).1.2
  have hfilter := filter_idsOf hcited hsub
  refine ⟨hsub, ?_, ?_, List.forall_mem_nil _, List.forall_mem_nil _,
    fun metric hmem => (hspec metric hmem).2.2.2, List.forall_mem_nil _⟩
  · refine List.forall_mem_cons.2 ⟨⟨_, fun hnil => ?_, hfilter.2, quote_spec hsummary⟩, ?_⟩
    · obtain ⟨metric, hmem⟩ := List.exists_mem_of_length_pos (le_length_of_listOf hmetrics)
      obtain ⟨chunk, hchunk⟩ := List.exists_mem_of_ne_nil _ (hspec metric hmem).1.1
      have hused := hfilter.1 (subset_flatMap (f := fun metric : Metric ν => metric.evidence) hmem hchunk)
      exact List.not_mem_nil (hnil ▸ hused)
    · intro text htext
      obtain ⟨metric, hmem, rfl⟩ := List.mem_map.1 htext
      rw [List.mem_filter, Bool.not_eq_true'] at hmem
      exact ((hspec metric hmem.1).2.2.1 hmem.2).mono (subset_flatMap hmem.1)
  · intro text htext
    obtain ⟨metric, hmem, rfl⟩ := List.mem_map.1 htext
    exact (hspec metric hmem).2.1.mono (subset_flatMap hmem)

theorem readCard_spec {value : Json ν} {card : Card ν} (h : readCard cited value = some card) :
    card.evidence ⊆ cited ∧ Framed card.evidence card.question ∧ Quotes card.evidence card.answer := by
  obtain ⟨field, -, h₁⟩ := Option.bind_eq_some_iff.1 h
  obtain ⟨chunks, hchunks, h₂⟩ := Option.bind_eq_some_iff.1 h₁
  obtain ⟨asked, hasked, h₃⟩ := Option.bind_eq_some_iff.1 h₂
  obtain ⟨answer, hanswer, h₄⟩ := Option.bind_eq_some_iff.1 h₃
  obtain rfl := Option.some.inj h₄
  obtain ⟨hne, hsub⟩ := refs_spec hchunks
  exact ⟨hsub, question_spec hasked, quotes_of_quote hne hanswer⟩

theorem readFlashcards_spec {value : Json ν} {content : Content ν}
    (h : readFlashcards cited value = some content) : Made cited content := by
  obtain ⟨field, -, h₁⟩ := Option.bind_eq_some_iff.1 h
  obtain ⟨cards, hcards, h₂⟩ := Option.bind_eq_some_iff.1 h₁
  obtain ⟨-, h₃⟩ := guard_bind_eq_some.1 h₂
  obtain rfl := Option.some.inj h₃
  have hspec := fun card hmem => readCard_spec (listOf_spec hcards card hmem).choose_spec
  refine ⟨flatMap_subset fun card hmem => (hspec card hmem).1, ?_, List.forall_mem_nil _, ?_,
    List.forall_mem_nil _, List.forall_mem_nil _, List.forall_mem_nil _⟩
  · intro text htext
    obtain ⟨card, hmem, rfl⟩ := List.mem_map.1 htext
    exact (hspec card hmem).2.2.mono (subset_flatMap hmem)
  · intro text htext
    obtain ⟨card, hmem, rfl⟩ := List.mem_map.1 htext
    exact (hspec card hmem).2.1.mono (subset_flatMap hmem)

theorem readQuizQuestion_spec [ReadableNumber ν] {value : Json ν} {item : QuizQuestion ν}
    (h : readQuizQuestion cited value = some item) :
    item.evidence ⊆ cited ∧ Framed item.evidence item.question ∧
      (∀ text ∈ item.options[item.answerIndex]?.toList ++ [item.explanation],
        Quotes item.evidence text) ∧
      ∀ text ∈ item.options.eraseIdx item.answerIndex, startsWith text "교육용 오답:" = true := by
  obtain ⟨field, -, h₁⟩ := Option.bind_eq_some_iff.1 h
  obtain ⟨chunks, hchunks, h₂⟩ := Option.bind_eq_some_iff.1 h₁
  obtain ⟨asked, hasked, h₃⟩ := Option.bind_eq_some_iff.1 h₂
  obtain ⟨options, -, h₄⟩ := Option.bind_eq_some_iff.1 h₃
  obtain ⟨answerIndex, -, h₅⟩ := Option.bind_eq_some_iff.1 h₄
  obtain ⟨answer, hanswer, h₆⟩ := Option.bind_eq_some_iff.1 h₅
  obtain ⟨-, h₇⟩ := guard_bind_eq_some.1 h₆
  obtain ⟨quoted, hquoted, h₈⟩ := Option.bind_eq_some_iff.1 h₇
  obtain ⟨explanation, hexplanation, h₉⟩ := Option.bind_eq_some_iff.1 h₈
  obtain ⟨hwrong, h₁₀⟩ := guard_bind_eq_some.1 h₉
  obtain rfl := Option.some.inj h₁₀
  obtain ⟨hne, hsub⟩ := refs_spec hchunks
  refine ⟨hsub, question_spec hasked, ?_, fun text htext => ?_⟩
  · intro text htext
    rw [hanswer] at htext
    rcases List.mem_cons.1 htext with rfl | hlast
    · obtain ⟨read, hread, h₁₁⟩ := Option.bind_eq_some_iff.1 hquoted
      obtain ⟨hquote, -⟩ := guard_bind_eq_some.1 h₁₁
      rw [← Json.str.inj (text_of_text_ hread)] at hquote
      exact ⟨chunks, hne, List.Subset.refl _, hquote⟩
    · rw [List.mem_singleton.1 hlast]
      exact quotes_of_quote hne hexplanation
  · have hoption := List.all_eq_true.1 hwrong text htext
    rw [wrongOption, Bool.and_eq_true, Bool.and_eq_true] at hoption
    exact hoption.1.2

theorem readQuiz_spec [ReadableNumber ν] {value : Json ν} {content : Content ν}
    (h : readQuiz cited value = some content) : Made cited content := by
  obtain ⟨field, -, h₁⟩ := Option.bind_eq_some_iff.1 h
  obtain ⟨questions, hquestions, h₂⟩ := Option.bind_eq_some_iff.1 h₁
  obtain ⟨-, h₃⟩ := guard_bind_eq_some.1 h₂
  obtain rfl := Option.some.inj h₃
  have hspec := fun item hmem => readQuizQuestion_spec (listOf_spec hquestions item hmem).choose_spec
  refine ⟨flatMap_subset fun item hmem => (hspec item hmem).1, ?_, List.forall_mem_nil _, ?_,
    List.forall_mem_nil _, List.forall_mem_nil _, ?_⟩
  · intro text htext
    obtain ⟨item, hmem, hin⟩ := List.mem_flatMap.1 htext
    exact ((hspec item hmem).2.2.1 text hin).mono
      (subset_flatMap (f := fun item : QuizQuestion ν => item.evidence) hmem)
  · intro text htext
    obtain ⟨item, hmem, rfl⟩ := List.mem_map.1 htext
    exact (hspec item hmem).2.1.mono (subset_flatMap hmem)
  · intro text htext
    obtain ⟨item, hmem, hin⟩ := List.mem_flatMap.1 htext
    exact (hspec item hmem).2.2.2 text hin

variable [ReadableNumber ν] {p : Reading ν}

theorem readContent_spec {evidence : List (Chunk ν)} {value : Json ν} {content : Content ν}
    (hcited : (idsOf cited).Nodup) {outputType : OutputType}
    (h : readContent p evidence cited value outputType = some content) : Made cited content := by
  cases outputType with
  | evidenceReport => exact readReport_spec h
  | complianceChecklist =>
    obtain ⟨field, -, h₁⟩ := Option.bind_eq_some_iff.1 h
    obtain ⟨items, hitems, h₂⟩ := Option.bind_eq_some_iff.1 h₁
    obtain rfl := Option.some.inj h₂
    exact made_checklist (listOf_spec hitems)
  | comparisonTable =>
    obtain ⟨field, -, h₁⟩ := Option.bind_eq_some_iff.1 h
    obtain ⟨rows, hrows, h₂⟩ := Option.bind_eq_some_iff.1 h₁
    obtain ⟨-, h₃⟩ := guard_bind_eq_some.1 h₂
    obtain rfl := Option.some.inj h₃
    exact made_table (listOf_spec hrows)
  | knowledgeMap => exact readMap_spec h
  | businessDraft =>
    obtain ⟨sections, hsections, h₁⟩ := Option.bind_eq_some_iff.1 h
    obtain rfl := Option.some.inj h₁
    obtain ⟨hsub, hbodies, htitles⟩ := readSections_spec hsections
    exact ⟨hsub, hbodies, htitles, List.forall_mem_nil _, List.forall_mem_nil _,
      List.forall_mem_nil _, List.forall_mem_nil _⟩
  | slides =>
    obtain ⟨sections, hsections, h₁⟩ := Option.bind_eq_some_iff.1 h
    obtain rfl := Option.some.inj h₁
    obtain ⟨hsub, hbodies, htitles⟩ := readSections_spec hsections
    exact ⟨hsub, hbodies, htitles, List.forall_mem_nil _, List.forall_mem_nil _,
      List.forall_mem_nil _, List.forall_mem_nil _⟩
  | infographic => exact readInfographic_spec hcited h
  | flashcards => exact readFlashcards_spec h
  | quiz => exact readQuiz_spec h
  | audio => cases h
  | video => cases h

omit [ReadableNumber ν] in
theorem idsOf_of_mapM {ids : List String} (h : ids.mapM (chunkOf chunks) = some cited) :
    idsOf cited = ids := by
  induction ids generalizing cited with
  | nil =>
    obtain rfl := Option.some.inj h
    rfl
  | cons id ids ih =>
    rw [List.mapM_cons] at h
    obtain ⟨chunk, hchunk, h₁⟩ := Option.bind_eq_some_iff.1 h
    obtain ⟨rest, hrest, h₂⟩ := Option.bind_eq_some_iff.1 h₁
    obtain rfl := Option.some.inj h₂
    rw [idsOf, List.map_cons, (chunkOf_eq_some hchunk).2, ← ih hrest, idsOf]

omit [ReadableNumber ν] in
theorem citedChunks_spec {value : Json ν} (h : citedChunks chunks value = some cited) :
    (idsOf cited).Nodup ∧ cited ⊆ chunks := by
  obtain ⟨values, -, h₁⟩ := Option.bind_eq_some_iff.1 h
  obtain ⟨ids, -, h₂⟩ := Option.bind_eq_some_iff.1 h₁
  obtain ⟨hnodup, hfound⟩ := guard_bind_eq_some.1 h₂
  refine ⟨by rwa [idsOf_of_mapM hfound], fun chunk hchunk => ?_⟩
  obtain ⟨id, -, hid⟩ := (mem_of_mapM hfound).2 chunk hchunk
  exact (chunkOf_eq_some hid).1

/-- What `parse_typed_output` accepts: an insufficient result has no content and no citations, and the
content of any other is made of the chunks that the result cites, which are those that its items refer to. -/
theorem parseTypedOutput_supported {request : StudioGenerationRequest} {raw : Raw ν}
    {evidence : List (Json ν)} {lineage : Lineage} {result : TypedStudioResult ν}
    (h : parseTypedOutput p request raw evidence lineage = some result) :
    (result.insufficient = true →
      result.content = none ∧ result.contentJson = none ∧ result.citedChunkIds = []) ∧
    (result.insufficient = false → ∃ chunks content, readEvidence [] evidence = some chunks ∧
      result.content = some content ∧
      result.contentJson = some (content.json request lineage result.nextActions).canonical ∧
      Supported chunks result.citedChunkIds content) := by
  obtain ⟨-, h₁⟩ := guard_bind_eq_some.1 h
  obtain ⟨-, -, h₂⟩ := Option.bind_eq_some_iff.1 h₁
  obtain ⟨-, -, h₃⟩ := Option.bind_eq_some_iff.1 h₂
  obtain ⟨value, -, h₄⟩ := Option.bind_eq_some_iff.1 h₃
  obtain ⟨field, -, h₅⟩ := Option.bind_eq_some_iff.1 h₄
  obtain ⟨insufficient, -, h₆⟩ := Option.bind_eq_some_iff.1 h₅
  obtain ⟨chunks, hchunks, h₇⟩ := Option.bind_eq_some_iff.1 h₆
  obtain ⟨actions, -, h₈⟩ := Option.bind_eq_some_iff.1 h₇
  obtain ⟨cited, hcited, h₉⟩ := Option.bind_eq_some_iff.1 h₈
  split at h₉
  · obtain ⟨-, h₁₀⟩ := guard_bind_eq_some.1 h₉
    obtain rfl := Option.some.inj h₁₀
    exact ⟨fun _ => ⟨rfl, rfl, rfl⟩, fun hfalse => Bool.noConfusion hfalse⟩
  · obtain ⟨-, h₁₀⟩ := guard_bind_eq_some.1 h₉
    obtain ⟨content, hcontent, h₁₁⟩ := Option.bind_eq_some_iff.1 h₁₀
    obtain ⟨hunion, h₁₂⟩ := guard_bind_eq_some.1 h₁₁
    obtain rfl := Option.some.inj h₁₂
    refine ⟨fun htrue => Bool.noConfusion htrue, fun _ => ⟨chunks, content, hchunks, rfl, rfl, ?_⟩⟩
    obtain ⟨hnodup, hsub⟩ := citedChunks_spec hcited
    have hmade := readContent_spec hnodup hcontent
    exact
      { nodup := hnodup.filter _
        supplied := List.Subset.trans hmade.cited hsub
        union := fun id => by
          rw [List.mem_filter, decide_eq_true_eq, and_iff_right_iff_imp]
          exact fun hid => hunion.2 hid
        bodies := hmade.bodies
        headings := hmade.headings
        questions := hmade.questions
        actions := hmade.actions
        metrics := hmade.metrics
        wrongOptions := hmade.wrongOptions }

end Supported

/-! ## A checklist -/

namespace Sample

def request : StudioGenerationRequest := ⟨.complianceChecklist, "Doors", none, "list", "pdf"⟩

def chunk (id text : String) : Json Int :=
  .obj [("chunk_id", .str id), ("text", .str text), ("page", .num 1)]

def evidence : List (Json Int) := [chunk "c1" "Doors stay shut.", chunk "c2" "Door 3 was open."]

def written : Json Int :=
  .obj [("content", .obj [("items", .arr [.obj [("criterion", .str "Doors stay shut."),
      ("observation", .str "Door 3 was open."), ("judgement", .str "needs_review"),
      ("action", .str "Doors stay shut.\nDoor 3 was open."), ("criterion_chunk_id", .str "c1"),
      ("observation_chunk_id", .str "c2")]])]),
    ("cited_chunk_ids", .arr [.str "c1", .str "c2"]), ("insufficient", .bool false),
    ("next_actions", .arr [])]

def reading : Reading Int := ⟨fun _ => some written, fun _ => []⟩

def output : Option (TypedStudioResult Int) :=
  parseTypedOutput reading request (.text "{}") evidence ⟨"request-1", "model-1"⟩

end Sample

/-- The action of a checklist may be two cited texts, which is none of the fixed actions and none of the
cited texts. -/
theorem action_quotes_two_chunks : ∃ result ∈ Sample.output, result.insufficient = false ∧
    ∃ content ∈ result.content, ∃ item ∈ content.checks, item.action ∉ fixedActions ∧
      ∀ chunk ∈ content.references, strip item.action ≠ strip chunk.text := by
  decide

/-- The checklist is made of the two chunks. -/
theorem checklist_supported : ∃ result ∈ Sample.output, ∃ chunks content,
    readEvidence [] Sample.evidence = some chunks ∧ result.content = some content ∧
      Supported chunks result.citedChunkIds content := by
  have hsufficient : Sample.output.map (·.insufficient) = some false := by decide
  obtain ⟨result, hresult, hfalse⟩ := Option.map_eq_some_iff.1 hsufficient
  obtain ⟨chunks, content, hchunks, hcontent, -, hsupported⟩ :=
    (parseTypedOutput_supported hresult).2 hfalse
  exact ⟨result, hresult, chunks, content, hchunks, hcontent, hsupported⟩

end DaonUser.Studio
