import HelpForge.Chatbot.Rag.Filters
import HelpForge.Chatbot.Rag.Reranking

set_option autoImplicit false

namespace HelpForge.Chatbot

open Lib

namespace PageContext

variable {Vector : Type} (services : IndexServices Vector) (engine : SearchEngine Vector)
  (python : Python) (regex : Regex) (model : LanguageModel) (state : IndexState Vector)

def augmentedQuery (request : WidgetChatRequest) : String :=
  let page := pagePrefixes request.context.page
  if page = "" then request.message else stripped (page ++ " " ++ request.message)

def filterConditions (request : WidgetChatRequest) : Option (Dict Value) :=
  match request.context.product_id with
  | some "" | none => none
  | some product_id => some [("product_id", .str product_id)]

def retrieved (org_id query : String) (conditions : Option (Dict Value)) :
    Except PyError (List RetrievedDoc) :=
  RAGRetriever.retrieveFiltered services engine python regex org_id query none
    (conditions.getD []) none state

def docValue (doc : RetrievedDoc) : Value :=
  .dict [("id", .str doc.id), ("score", .float doc.score), ("payload", .dict doc.payload)]

/-- The surroundings of a widget whose retrieval is that of the index. -/
def ofIndex (outside : WidgetSurroundings) : WidgetSurroundings :=
  { outside with
    retrieveDocs := fun org_id query conditions => do
      let docs ← retrieved services engine python regex state org_id query conditions
      return docs.map docValue }

/-- The retrieval returns documents, and of those that the re-ranking keeps one is good enough. -/
structure Found (request : WidgetChatRequest) (docs kept : List RetrievedDoc) : Prop where
  returned : retrieved services engine python regex state request.org_id (augmentedQuery request)
    (filterConditions request) = .ok docs
  some_doc : docs ≠ []
  reranked : kept = Reranker.rerank engine python model request.org_id (augmentedQuery request)
    docs 3
  relevant : ∃ doc ∈ kept, RAGPipeline.minRetrievalScore ≤ RAGPipeline.relevance doc

/-- The agent is given the block of the documents that were kept. -/
def Carried (input : AgentInput) (kept : List RetrievedDoc) : Prop :=
  RAGPipeline.buildRagContext python kept ≠ "" ∧
    input.rag_context = some (RAGPipeline.buildRagContext python kept)

variable {services engine python regex model state} (outside : WidgetSurroundings)
  (request : WidgetChatRequest)

theorem buildRagContext_blank : buildRagContext outside request = "" := by
  unfold buildRagContext
  simp only [bind, Except.bind]
  split
  · rename_i made
    split at made
    · cases made
    · cases made
  · rfl

theorem nothing_carried (messages : List (Dict Value)) (findings : Findings) :
    (widgetAgentInput outside request messages findings).rag_context = none := by
  simp [widgetAgentInput, buildRagContext_blank]

/-- Whatever is found for the page and the product, the agent is not given it: for no message is
the context carried. -/
theorem context_never_carried (services : IndexServices Vector) (engine : SearchEngine Vector)
    (python : Python) (regex : Regex) (model : LanguageModel) (state : IndexState Vector)
    (outside : WidgetSurroundings) (request : WidgetChatRequest) (messages : List (Dict Value))
    (findings : Findings) :
    (∀ docs kept, Found services engine python regex model state request docs kept →
      Carried python (widgetAgentInput (ofIndex services engine python regex state outside) request
        messages findings) kept) ↔
      ¬∃ docs kept, Found services engine python regex model state request docs kept := by
  constructor
  · rintro carried ⟨docs, kept, found⟩
    have given := (carried docs kept found).2
    rw [nothing_carried] at given
    cases given
  · intro nothing docs kept found
    exact absurd ⟨docs, kept, found⟩ nothing

def greetingOnLite : WidgetChatRequest where
  session_id := "s1"
  org_id := "acme"
  message := "hi"

def liteDoc : RetrievedDoc where
  id := "p1"
  score := 1
  payload := RAGRetriever.litePage

open RAGRetriever in
theorem lite_retrieved :
    retrieved plainServices shelfEngine (.reading .none) wholeRegex liteIndex "acme" "hi" none =
      .ok [liteDoc] := by
  have there : QdrantVectorStore.collection "acme" liteIndex = some [("p1", ⟨(), litePage⟩)] := rfl
  have once := @nearest_once _ shelfEngine (limitOf none * 2) () _ shelfEngine_answers
    (liteIndex_distinct _ there)
  have found := @retrieveFiltered_there _ plainServices shelfEngine (.reading .none) wholeRegex
    liteIndex "acme" "hi" none [] none () _ lite_embedded rfl there (by simp) (once _)
  have hits : hitLists shelfEngine (.reading .none) wholeRegex "hi" [] none (limitOf none * 2) ()
      [("p1", ⟨(), litePage⟩)] = [[liteDoc]] := by
    have none_found : keywordHits shelfEngine (.reading .none) wholeRegex "hi"
        (limitOf none * 2) () [("p1", ⟨(), litePage⟩)] = [] := by
      simp [keywordHits, short_query]
    rw [hitLists, none_found]
    rfl
  have single := rrfMerge_replicate [liteDoc] (by decide) 0
  rw [hits] at found
  rw [retrieved, Option.getD_none, found]
  exact congrArg (fun docs : List RetrievedDoc => Except.ok (docs.take (limitOf none))) single

theorem lite_found : Found plainServices RAGRetriever.shelfEngine (.reading .none)
    RAGRetriever.wholeRegex { respond := fun _ => none } RAGRetriever.liteIndex greetingOnLite
    [liteDoc] [liteDoc] := by
  constructor
  · exact lite_retrieved
  · simp
  · have sure : Reranker.confident [liteDoc] = true := by decide +kernel
    rw [Reranker.rerank_confident sure]
    rfl
  · exact ⟨liteDoc, List.mem_singleton_self _, by decide +kernel⟩

theorem lite_not_carried :
    Found plainServices RAGRetriever.shelfEngine (.reading .none) RAGRetriever.wholeRegex
        { respond := fun _ => none } RAGRetriever.liteIndex greetingOnLite [liteDoc] [liteDoc] ∧
      ¬∃ outside messages findings, Carried (.reading .none)
        (widgetAgentInput (ofIndex plainServices RAGRetriever.shelfEngine (.reading .none)
          RAGRetriever.wholeRegex RAGRetriever.liteIndex outside) greetingOnLite messages findings)
        [liteDoc] := by
  constructor
  · exact lite_found
  · rintro ⟨outside, messages, findings, carried⟩
    have given := carried.2
    rw [nothing_carried] at given
    cases given

end PageContext

end HelpForge.Chatbot
