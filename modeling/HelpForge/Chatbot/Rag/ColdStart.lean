import HelpForge.Chatbot.Rag.Refinement
import HelpForge.Chatbot.Rag.Retriever
import HelpForge.Chatbot.Vectors.Labels
import HelpForge.Chatbot.Vectors.Reindexing

set_option autoImplicit false

namespace HelpForge.Chatbot

open Lib.Program (run_bind)

open Lib QdrantVectorStore

namespace ColdStart

section Ingestion

variable {Vector : Type} (services : IndexServices Vector)

def TextGiven (request : ProcessDocumentRequest) : Prop :=
  -- The metadata leave the text of a chunk alone, or put another text in its place.
  ∀ value, (Dict.merge [] request.metadata).lookup "text" = some value → ∃ text, value = .str text

/-- `process_document` returns, and reports what it has stored. -/
def Ingested (request : ProcessDocumentRequest) (state : IndexState Vector) : Prop :=
  ∃ call response, @IndexCall.Ingests Vector state.embedding_version request call ∧
    (call.complete services 3 state).1 = .finished (.ok (.processed response))

variable {services}

theorem lookup_baseMetadata_text (request : ProcessDocumentRequest) (embedding_version : String) :
    (Dict.merge [] (baseMetadata request embedding_version)).lookup "text" =
      (Dict.merge [] request.metadata).lookup "text" := by
  have distinct : ((baseMetadata request embedding_version).map Prod.fst).Nodup := by
    apply Dict.nodup_merge
    simp
  rw [Dict.merge_new [] _ distinct (by simp), List.nil_append, baseMetadata]
  exact lookup_fields _ _ _ (by simp)

theorem documentChunks_single {passes : Nat} {request : ProcessDocumentRequest}
    {embedding_version : String} {chunks : List (Dict Value)}
    (cut : documentChunks passes request embedding_version = some chunks) :
    ∃ chunk text, chunks = [chunk] ∧
      chunk.lookup "text" =
        ((Dict.merge [] request.metadata).lookup "text").or (some (.str text)) := by
  -- An ingestion that returns has made one chunk of the content.
  have returned := (documentChunks_returns_iff request embedding_version).mp ⟨passes, chunks, cut⟩
  unfold documentChunks at cut
  split_ifs at cut with chunked
  · have short : (normalize request.content.toList).length ≤ chunker.chunk_size := by
      rcases returned with whole | short
      · rw [whole] at chunked
        cases chunked
      · exact short
    rw [DocumentChunker.chunkText_single _ _ _ _ short] at cut
    cases cut
    refine ⟨_, String.ofList (normalize request.content.toList), rfl, ?_⟩
    rw [DocumentChunker.chunk, Dict.lookup_merge, lookup_baseMetadata_text]
    rfl
  · cases cut
    refine ⟨_, request.content, rfl, ?_⟩
    rw [Dict.lookup_merge, lookup_baseMetadata_text]
    rfl

theorem embedMany_single_iff (state : IndexState Vector) (up : state.embeddingUp = true)
    (value : Value) :
    (∃ outcome, Embedder.embedMany services [value] state = .ok outcome) ↔
      ∃ text, value = .str text := by
  constructor
  · rintro ⟨⟨vectors, reached⟩, done⟩
    obtain ⟨texts, same, -⟩ := Embedder.embedMany_ok done
    cases texts with
    | nil => cases same
    | cons text rest =>
      rw [List.map_cons, List.cons.injEq] at same
      exact ⟨text, same.1⟩
  · rintro ⟨text, rfl⟩
    obtain ⟨vectors, reached, done, -⟩ := @embedMany_up _ services state up [text]
    exact ⟨(vectors, reached), done⟩

theorem upsert_up (state : IndexState Vector) (up : state.storeUp = true) (org_id : String)
    (vectors : List Vector) (payloads : List (Dict Value)) :
    ∃ outcome, upsert services org_id vectors payloads none state = .ok outcome :=
  ⟨_, if_pos up⟩

theorem embedMany_storeUp {state reached : IndexState Vector} {values : List Value}
    {vectors : List Vector}
    (done : Embedder.embedMany services values state = .ok (vectors, reached)) :
    reached.storeUp = state.storeUp := by
  obtain ⟨texts, -, -, rfl | rfl⟩ := Embedder.embedMany_ok done
  · rfl
  · rfl

variable (services) in
theorem process_cold {state : IndexState Vector} (request : ProcessDocumentRequest)
    (chunks : List (Dict Value)) (absent : collection request.org_id state = none) :
    ∃ error, (IndexCall.complete services 3 (.process request chunks) state).1 =
      .finished (.error error) := by
  have failed : ∃ error, deleteByDocument request.org_id request.document_id state =
      .error error := by
    unfold deleteByDocument onCollection
    rw [absent]
    by_cases up : state.storeUp = true
    · exact ⟨_, if_pos up⟩
    · exact ⟨_, if_neg up⟩
  obtain ⟨error, failed⟩ := failed
  exact ⟨error, by simp [IndexCall.complete, IndexCall.advance, IndexCall.proceed, failed]⟩

variable (state : IndexState Vector)

theorem process_completes_iff (store : state.storeUp = true) (embedding : state.embeddingUp = true)
    (request : ProcessDocumentRequest) (chunk : Dict Value) :
    (∃ response, (IndexCall.complete services 3 (.process request [chunk]) state).1 =
        .finished (.ok (.processed response))) ↔
      (∃ points, collection request.org_id state = some points) ∧
        ∃ text, (chunk.lookup "text").getD .none = .str text := by
  -- The steps of an ingestion, of which the first needs a collection and the second texts.
  cases there : collection request.org_id state with
  | none =>
    obtain ⟨error, failed⟩ := process_cold services request [chunk] there
    simp [failed]
  | some points =>
    have deleted : ∃ reached, deleteByDocument request.org_id request.document_id state =
        .ok ((), reached) ∧ reached.storeUp = true ∧ reached.embeddingUp = true := by
      unfold deleteByDocument onCollection
      rw [if_pos store, there]
      exact ⟨_, rfl, store, embedding⟩
    obtain ⟨reached, deleted, storeUp, embeddingUp⟩ := deleted
    have embeds := @embedMany_single_iff _ services reached embeddingUp
      ((chunk.lookup "text").getD .none)
    rw [← embeds]
    rcases embedded : Embedder.embedMany services [(chunk.lookup "text").getD .none] reached with
      error | ⟨vectors, after⟩
    · simp [IndexCall.complete, IndexCall.advance, IndexCall.proceed, deleted, embedded]
    · obtain ⟨outcome, stored⟩ := @upsert_up _ services after
        ((embedMany_storeUp embedded).trans storeUp) request.org_id vectors [chunk]
      simp [IndexCall.complete, IndexCall.advance, IndexCall.proceed, deleted, embedded, stored]

theorem ingested_iff (store : state.storeUp = true) (embedding : state.embeddingUp = true)
    (request : ProcessDocumentRequest) :
    Ingested services request state ↔
      (∃ points, collection request.org_id state = some points) ∧
        (request.chunk = false ∨
          (normalize request.content.toList).length ≤ settings.chunk_size) ∧
        TextGiven request := by
  have returns := documentChunks_returns_iff request state.embedding_version
  have texts (chunk : Dict Value) (text : String)
      (said : chunk.lookup "text" =
        ((Dict.merge [] request.metadata).lookup "text").or (some (.str text))) :
      (∃ text, (chunk.lookup "text").getD .none = .str text) ↔ TextGiven request := by
    unfold TextGiven
    rw [said]
    cases (Dict.merge [] request.metadata).lookup "text" <;> simp
  constructor
  · rintro ⟨call, response, ⟨passes, chunks, cut, rfl⟩, completed⟩
    obtain ⟨chunk, text, rfl, said⟩ := documentChunks_single cut
    obtain ⟨there, worded⟩ :=
      (process_completes_iff state store embedding request chunk).mp ⟨response, completed⟩
    exact ⟨there, returns.mp ⟨passes, _, cut⟩, (texts chunk text said).mp worded⟩
  · rintro ⟨there, short, given⟩
    obtain ⟨passes, chunks, cut⟩ := returns.mpr short
    obtain ⟨chunk, text, rfl, said⟩ := documentChunks_single cut
    obtain ⟨response, completed⟩ := (process_completes_iff state store embedding request chunk).mpr
      ⟨there, (texts chunk text said).mpr given⟩
    exact ⟨_, response, ⟨passes, [chunk], cut, rfl⟩, completed⟩

end Ingestion

section Turns

open LanguageModel RAGPipeline ChatService

variable {Vector : Type} (services : IndexServices Vector) (engine : SearchEngine Vector)
  (python : Python) (regex : Regex) (model : LanguageModel) (state : IndexState Vector)
  (request : ChatRequest) (memory : TicketMemory)

def outside : RagSurroundings := surroundings services engine python regex model state

def cleanMessage : String := (checkInput python request.message).safe_value

def faqQuestion : Value :=
  -- The question of the FAQ entry that answers the turn.
  (((FAQMatcher.topHit services engine request.org_id (cleanMessage python request)
    state).bind fun top => top.payload.lookup "question")).getD (.str "")

/-- `run`, which cuts the question of an FAQ entry that it answers with. -/
def answered : PipelineCall PipelineResult := do
  let result ← runPipeline python regex (outside services engine python regex model state) request
  if result.faq_hit then
    let _ ← Program.done (RAGPipeline.excerpt (faqQuestion services engine python state request))
    return result
  else return result

def RunAnswers : Prop :=
  ∃ result, ((answered services engine python regex model state request).run { memory }).1 =
    .ok result

def StreamAnswers : Prop :=
  ((streamMessage python regex (outside services engine python regex model state) request).run
    { memory }).1 = .ok ()

def Short : Prop :=
  -- The message is turned away, or has a canned answer.
  (checkInput python request.message).safe = false ∨
    (QueryRouter.classify python regex model request.org_id
      (cleanMessage python request)).use_rag = false

def faqHit : Bool :=
  (FAQMatcher.find services engine python request.org_id (cleanMessage python request)
    state).matched

def WindowGiven : Prop :=
  ∃ start, TicketMemory.negated
    (((buildTicketContext request).lookup "context_window").getD (.int 10)) = .ok start

/-- The documents that `run` shows to the model. -/
def shown : Except PyError (List RetrievedDoc) := do
  let retrieved_docs ← (outside services engine python regex model state).retrieve request.org_id
    (cleanMessage python request) (topKRetrieval * 2)
  (outside services engine python regex model state).rerank request.org_id
    (cleanMessage python request) retrieved_docs topKRetrieval

def Citable : Prop :=
  -- What is cited of the documents can be cut.
  ∀ docs, shown services engine python regex model state request = .ok docs →
    ∀ doc ∈ docs, minRetrievalScore ≤ relevance doc →
      ∃ text, RAGPipeline.excerpt ((doc.payload.lookup "text").getD (.str "")) = .ok text

/-- The model answers whatever it is asked, for any organisation. -/
structure Answering (model : LanguageModel) : Prop where
  responds : ∀ request, ∃ answer, model.respond request = some answer
  enabled : ∀ org_id, model.aiEnabled org_id = true

variable {services engine python regex model state request memory}

theorem sourcesOf_ok_iff (docs : List RetrievedDoc) :
    (∃ sources, sourcesOf docs = .ok sources) ↔
      ∀ doc ∈ docs, minRetrievalScore ≤ relevance doc →
        ∃ text, RAGPipeline.excerpt ((doc.payload.lookup "text").getD (.str "")) = .ok text := by
  unfold sourcesOf
  rw [mapM_ok_iff]
  have source (doc : RetrievedDoc) : (∃ value, sourceOf doc = .ok value) ↔
      ∃ text, RAGPipeline.excerpt ((doc.payload.lookup "text").getD (.str "")) = .ok text := by
    unfold sourceOf
    cases RAGPipeline.excerpt ((doc.payload.lookup "text").getD (.str "")) with
    | error error => exact ⟨nofun, nofun⟩
    | ok text => exact ⟨fun _ => ⟨text, rfl⟩, fun _ => ⟨_, rfl⟩⟩
  simp only [List.mem_filter, decide_eq_true_eq, and_imp, source]

theorem buildMessages_loaded (messages : List MemoryMessage) (current_message rag_context : String) :
    ∃ built, RAGPipeline.buildMessages (messages.map MemoryMessage.loaded) current_message rag_context =
      .ok built := by
  have read : ∃ values, (messages.map MemoryMessage.loaded).mapM historyMessage = .ok values := by
    rw [mapM_ok_iff]
    intro entry member
    obtain ⟨message, -, rfl⟩ := List.mem_map.mp member
    exact ⟨_, rfl⟩
  obtain ⟨values, read⟩ := read
  unfold RAGPipeline.buildMessages
  rw [read]
  exact ⟨_, rfl⟩

theorem prepare_ok_iff (store : state.storeUp = true) (embedding : state.embeddingUp = true)
    (top_k : Nat) :
    (∃ ready, prepare python (outside services engine python regex model state) request.org_id
        request.ticket_id (buildTicketContext request) request.mode (cleanMessage python request)
        top_k memory = .ok ready) ↔
      (∃ points, collection request.org_id state = some points) ∧ WindowGiven request := by
  -- A request is made of the documents as soon as there is a collection to find them in.
  have retrieves := @retrieve_ok_iff _ services engine python regex state store embedding
    request.org_id (cleanMessage python request) (some top_k) [] none
  rw [← retrieves]
  constructor
  · rintro ⟨ready, done⟩
    unfold prepare at done
    obtain ⟨docs, retrieved, done⟩ := (bind_eq_ok _ _ _).mp done
    obtain ⟨reranked, -, done⟩ := (bind_eq_ok _ _ _).mp done
    obtain ⟨history, recent, -⟩ := (bind_eq_ok _ _ _).mp done
    obtain ⟨start, negated, -⟩ := (bind_eq_ok _ _ _).mp recent
    exact ⟨⟨docs, retrieved⟩, start, negated⟩
  · rintro ⟨⟨docs, retrieved⟩, start, negated⟩
    obtain ⟨built, messages⟩ := buildMessages_loaded
      (lrange (memory.messages request.org_id request.ticket_id) start (-1))
      (cleanMessage python request)
      (RAGPipeline.buildRagContext python (Reranker.rerank engine python model request.org_id
        (cleanMessage python request) docs topKRetrieval))
    refine ⟨(_, _), (bind_eq_ok _ _ _).mpr ⟨docs, retrieved, (bind_eq_ok _ _ _).mpr
      ⟨_, rfl, (bind_eq_ok _ _ _).mpr ⟨_, (bind_eq_ok _ _ _).mpr ⟨start, negated, rfl⟩,
        (bind_eq_ok _ _ _).mpr ⟨built, messages, rfl⟩⟩⟩⟩⟩

theorem citable_iff {docs : List RetrievedDoc} {asked : ModelRequest}
    (prepared : prepare python (outside services engine python regex model state) request.org_id
      request.ticket_id (buildTicketContext request) request.mode
      (checkInput python request.message).safe_value (topKRetrieval * 2) memory =
        .ok (docs, asked)) :
    Citable services engine python regex model state request ↔
      ∃ sources, sourcesOf docs = .ok sources := by
  -- What is cited is cited of the documents that the model is shown.
  have found : shown services engine python regex model state request = .ok docs := by
    unfold prepare at prepared
    obtain ⟨retrieved, first, prepared⟩ := (bind_eq_ok _ _ _).mp prepared
    obtain ⟨reranked, second, prepared⟩ := (bind_eq_ok _ _ _).mp prepared
    obtain ⟨history, -, prepared⟩ := (bind_eq_ok _ _ _).mp prepared
    obtain ⟨messages, -, prepared⟩ := (bind_eq_ok _ _ _).mp prepared
    cases prepared
    exact (bind_eq_ok _ _ _).mpr ⟨retrieved, first, second⟩
  rw [sourcesOf_ok_iff]
  constructor
  · intro citable
    exact citable docs found
  · intro each docs' same
    cases found.symm.trans same
    exact each

@[simp] theorem outside_model :
    (outside services engine python regex model state).model = model := rfl

@[simp] theorem outside_faqMatch (org_id query : String) :
    (outside services engine python regex model state).faqMatch org_id query =
      FAQMatcher.find services engine python org_id query state := rfl

theorem run_short (short : Short python regex model request) :
    RunAnswers services engine python regex model state request memory := by
  by_cases safe : (checkInput python request.message).safe = true
  · rcases short with blocked | canned
    · rw [blocked] at safe
      cases safe
    · have unused : (QueryRouter.classify python regex model request.org_id
        (checkInput python request.message).safe_value).use_rag = false := canned
      simp [RunAnswers, answered, runPipeline, RAGPipeline.run, safe, unused,
        run_bind, run_route, run_remember, -bind_pure_comp]
  · simp [RunAnswers, answered, runPipeline, RAGPipeline.run, safe, -bind_pure_comp]

theorem stream_short (short : Short python regex model request) :
    StreamAnswers services engine python regex model state request memory := by
  by_cases safe : (checkInput python request.message).safe = true
  · rcases short with blocked | canned
    · rw [blocked] at safe
      cases safe
    · have unused : (QueryRouter.classify python regex model request.org_id
        (checkInput python request.message).safe_value).use_rag = false := canned
      simp [StreamAnswers, streamMessage, RAGPipeline.stream, safe, unused,
        ChatService.write, run_bind, run_route, run_remember, -bind_pure_comp]
  · simp [StreamAnswers, streamMessage, RAGPipeline.stream, safe, ChatService.write, run_bind,
      -bind_pure_comp]

section Long

variable (safe : (checkInput python request.message).safe = true)
  (long : (QueryRouter.classify python regex model request.org_id
    (checkInput python request.message).safe_value).use_rag = true)

include safe long

theorem run_faq (hit : faqHit services engine python state request = true) :
    RunAnswers services engine python regex model state request memory ↔
      ∃ cut, RAGPipeline.excerpt (faqQuestion services engine python state request) = .ok cut := by
  have matched : (FAQMatcher.find services engine python request.org_id
    (checkInput python request.message).safe_value state).matched = true := hit
  cases cut : RAGPipeline.excerpt (faqQuestion services engine python state request) <;>
    simp [RunAnswers, answered, runPipeline, RAGPipeline.run, safe, long,
      matched, cut, run_bind, run_route, run_remember, -bind_pure_comp]

theorem stream_faq (hit : faqHit services engine python state request = true) :
    StreamAnswers services engine python regex model state request memory := by
  have matched : (FAQMatcher.find services engine python request.org_id
    (checkInput python request.message).safe_value state).matched = true := hit
  simp [StreamAnswers, streamMessage, RAGPipeline.stream, safe, long,
    matched, ChatService.write, run_bind, run_route, run_remember, -bind_pure_comp]

section Answering

variable (answering : Answering model) (miss : ¬faqHit services engine python state request = true)
  (store : state.storeUp = true) (embedding : state.embeddingUp = true)

include answering miss store embedding

theorem run_retrieved :
    RunAnswers services engine python regex model state request memory ↔
      (∃ points, collection request.org_id state = some points) ∧ WindowGiven request ∧
        Citable services engine python regex model state request := by
  have unmatched : (FAQMatcher.find services engine python request.org_id
      (checkInput python request.message).safe_value state).matched = false :=
    Bool.eq_false_iff.mpr miss
  have ready := @prepare_ok_iff _ services engine python regex model state request memory store
    embedding (topKRetrieval * 2)
  rw [← and_assoc, ← ready]
  have asks (asked : ModelRequest) : ∃ answer, model.generate asked = .ok answer := by
    obtain ⟨answer, responds⟩ := answering.responds asked
    exact ⟨answer, by simp [LanguageModel.generate, answering.enabled, responds]⟩
  unfold cleanMessage
  rcases prepared : prepare python (outside services engine python regex model state)
    request.org_id request.ticket_id (buildTicketContext request) request.mode
    (checkInput python request.message).safe_value (topKRetrieval * 2) memory with
    error | ⟨docs, asked⟩
  · simp [RunAnswers, answered, runPipeline, RAGPipeline.run, safe, long, unmatched, runRetrieved,
      prepared, run_bind, run_route, -bind_pure_comp]
  · obtain ⟨answer, answers⟩ := asks asked
    rw [citable_iff prepared]
    cases told : sourcesOf docs <;>
      simp [RunAnswers, answered, runPipeline, RAGPipeline.run, safe, long, unmatched,
        runRetrieved, ask, prepared, answers, told, run_bind, run_route, run_remember,
        run_summaryEffect, -bind_pure_comp]

theorem stream_retrieved :
    StreamAnswers services engine python regex model state request memory ↔
      (∃ points, collection request.org_id state = some points) ∧ WindowGiven request := by
  have unmatched : (FAQMatcher.find services engine python request.org_id
      (checkInput python request.message).safe_value state).matched = false :=
    Bool.eq_false_iff.mpr miss
  have ready := @prepare_ok_iff _ services engine python regex model state request memory store
    embedding topKRetrieval
  rw [← ready]
  unfold cleanMessage
  rcases prepared : prepare python (outside services engine python regex model state)
    request.org_id request.ticket_id (buildTicketContext request) request.mode
    (checkInput python request.message).safe_value topKRetrieval memory with
    error | ⟨docs, asked⟩
  · simp [StreamAnswers, streamMessage, RAGPipeline.stream, safe, long, unmatched,
      streamRetrieved, prepared, run_bind, run_route, -bind_pure_comp]
  · obtain ⟨answer, responds⟩ := answering.responds asked
    simp [StreamAnswers, streamMessage, RAGPipeline.stream, safe, long, unmatched,
      streamRetrieved, prepared, streamGenerate, responds, run_bind, run_route,
      run_emitAll, run_remember, run_summaryEffect, ChatService.write, -bind_pure_comp]

end Answering

end Long

/-- With all services up, an ingestion succeeds just when the organisation has a collection and
the content comes out in one chunk of text; and a turn that is not answered before the retrieval
is answered just when the organisation has a collection and the window is a number. -/
theorem cold_start (services : IndexServices Vector) (engine : SearchEngine Vector)
    (python : Python) (regex : Regex) (model : LanguageModel) (state : IndexState Vector)
    (store : state.storeUp = true) (embedding : state.embeddingUp = true)
    (answering : Answering model) :
    (∀ request, Ingested services request state ↔
      (∃ points, collection request.org_id state = some points) ∧
        (request.chunk = false ∨
          (normalize request.content.toList).length ≤ settings.chunk_size) ∧
        TextGiven request) ∧
      ∀ request memory,
        (RunAnswers services engine python regex model state request memory ↔
          Short python regex model request ∨
            if faqHit services engine python state request then
              ∃ cut, RAGPipeline.excerpt (faqQuestion services engine python state request) =
                .ok cut
            else
              (∃ points, collection request.org_id state = some points) ∧ WindowGiven request ∧
                Citable services engine python regex model state request) ∧
        (StreamAnswers services engine python regex model state request memory ↔
          Short python regex model request ∨
            (faqHit services engine python state request = true ∨
              (∃ points, collection request.org_id state = some points) ∧
                WindowGiven request)) := by
  refine ⟨ingested_iff state store embedding, ?_⟩
  intro request memory
  by_cases short : Short python regex model request
  · exact ⟨⟨fun _ => .inl short, fun _ => run_short short⟩,
      ⟨fun _ => .inl short, fun _ => stream_short short⟩⟩
  · have neither := not_or.mp short
    have safe : (checkInput python request.message).safe = true :=
      Bool.not_eq_false _ ▸ neither.1
    have long : (QueryRouter.classify python regex model request.org_id
        (checkInput python request.message).safe_value).use_rag = true :=
      Bool.not_eq_false _ ▸ neither.2
    rw [or_iff_right short, or_iff_right short]
    by_cases hit : faqHit services engine python state request = true
    · rw [if_pos hit, run_faq safe long hit]
      exact ⟨Iff.rfl, fun _ => .inl hit, fun _ => stream_faq safe long hit⟩
    · rw [if_neg hit, run_retrieved safe long answering hit store embedding,
        stream_retrieved safe long answering hit store embedding, or_iff_right hit]
      exact ⟨Iff.rfl, Iff.rfl⟩

end Turns

end ColdStart

open ColdStart

/-- An engine that finds nothing. -/
def blankEngine : SearchEngine Unit where
  nearest _ _ _ := []
  matchText _ _ := false
  isdigit := Char.isDigit
  float _ := .error ⟨"ValueError", "could not convert string to float"⟩

/-- Every message reports a problem. -/
def complaints : Regex where
  search pattern _ := pattern == QueryRouter.complaintSignals
  finditer _ _ _ := []

def helpful : LanguageModel where
  respond _ := some { content := "We are looking into it." }

theorem helpful_answering : Answering helpful := ⟨fun _ => ⟨_, rfl⟩, fun _ => rfl⟩

def brokenLogin : ChatRequest where
  org_id := "acme"
  ticket_id := "t1"
  message := "The login is not working."
  window := default_window

theorem brokenLogin_long :
    (checkInput (.reading .none) brokenLogin.message).safe = true ∧
      (QueryRouter.classify (.reading .none) complaints helpful brokenLogin.org_id
        (checkInput (.reading .none) brokenLogin.message).safe_value).use_rag = true := by
  decide +kernel

/-- The organisation has a collection without points. -/
theorem empty_collection_serves :
    Ingested plainServices (pageVersion "Open until six.") emptyIndex ∧
      RunAnswers plainServices blankEngine (.reading .none) complaints helpful emptyIndex
        brokenLogin [] ∧
      StreamAnswers plainServices blankEngine (.reading .none) complaints helpful emptyIndex
        brokenLogin [] := by
  have served := cold_start plainServices blankEngine (.reading .none) complaints helpful emptyIndex
    rfl rfl helpful_answering
  have collected : ∃ points, collection "acme" emptyIndex = some points := ⟨[], rfl⟩
  have window : WindowGiven brokenLogin := ⟨-10, rfl⟩
  refine ⟨?_, ?_, ?_⟩
  · exact (served.1 _).mpr ⟨collected, .inl rfl, nofun⟩
  · refine ((served.2 brokenLogin []).1).mpr (.inr ?_)
    rw [if_neg (by decide)]
    refine ⟨collected, window, ?_⟩
    rintro docs ⟨⟩
    exact nofun
  · exact ((served.2 brokenLogin []).2).mpr (.inr (.inr ⟨collected, window⟩))

/-- The organisation has no collection yet. -/
theorem first_page_lost :
    ¬(Ingested plainServices (pageVersion "Open until six.") {} ∨
      RunAnswers plainServices blankEngine (.reading .none) complaints helpful {} brokenLogin [] ∨
      StreamAnswers plainServices blankEngine (.reading .none) complaints helpful {}
        brokenLogin []) := by
  have ⟨safe, long⟩ := brokenLogin_long
  have absent : ¬∃ points, collection "acme" ({} : IndexState Unit) = some points := nofun
  rintro (⟨call, response, ⟨passes, chunks, -, rfl⟩, completed⟩ | answers | answers)
  · obtain ⟨error, failed⟩ := @process_cold _ plainServices {} (pageVersion "Open until six.")
      chunks rfl
    rw [failed] at completed
    cases completed
  · exact absent ((run_retrieved safe long helpful_answering (by decide) rfl rfl).mp answers).1
  · exact absent ((stream_retrieved safe long helpful_answering (by decide) rfl rfl).mp answers).1

end HelpForge.Chatbot
