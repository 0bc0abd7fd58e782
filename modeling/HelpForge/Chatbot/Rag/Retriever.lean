import HelpForge.Chatbot.Rag.Pipeline
import HelpForge.Chatbot.Vectors.Effects
import Mathlib.Algebra.Order.Ring.Unbundled.Rat

set_option autoImplicit false

namespace HelpForge.Chatbot

open Lib

/-- How the store ranks points for a vector, the best first, and what meets `MatchText`;
`str.isdigit` of one character, and `float` of a text. -/
structure SearchEngine (Vector : Type) where
  nearest : Vector → Nat → Collection Vector → List RetrievedDoc
  matchText : String → Option Value → Bool
  isdigit : Char → Bool
  float : String → Except PyError Value

section Search

variable {Vector : Type} (services : IndexServices Vector) (engine : SearchEngine Vector)

namespace QdrantVectorStore

def searchWhere (org_id : String) (query_vector : Vector) (top_k : Nat)
    (filter : Dict Value → Bool) (state : IndexState Vector) :
    Except PyError (List RetrievedDoc) :=
  if state.storeUp then
    match collection org_id state with
    | some points => .ok
        (engine.nearest query_vector top_k (points.filter fun point => filter point.2.payload))
    | none => .error (notFound (collectionName org_id))
  else .error unreachable

def search (org_id : String) (query_vector : Vector) (top_k : Nat)
    (filter_conditions : Dict String) (state : IndexState Vector) :
    Except PyError (List RetrievedDoc) :=
  searchWhere engine org_id query_vector top_k
    (fun payload => filter_conditions.all fun condition =>
      matchValue condition.2 (payload.lookup condition.1))
    state

def keywordSearch (org_id : String) (query_vector : Vector) (keywords : List String) (top_k : Nat)
    (state : IndexState Vector) : List RetrievedDoc :=
  if keywords.isEmpty then []
  else
    match searchWhere engine org_id query_vector top_k
      (fun payload => keywords.any fun keyword => engine.matchText keyword (payload.lookup "text"))
      state with
    | .ok hits => hits
    | .error _ => []

end QdrantVectorStore

open QdrantVectorStore

def Embedder.embedOne (text : String) (state : IndexState Vector) : Except PyError Vector := do
  let (results, _) ← Embedder.embedMany services [.str text] state
  match results with
  | vector :: _ => .ok vector
  | [] => .error ⟨"IndexError", "list index out of range"⟩

namespace FAQMatcher

def faqSimilarityThreshold : Rat := 92 / 100

def topHit (org_id query : String) (state : IndexState Vector) : Option RetrievedDoc :=
  -- The best hit among the FAQ points; a call that fails is not fatal.
  match Embedder.embedOne services query state with
  | .ok vector =>
    match search engine org_id vector 1 [("source_type", "faq")] state with
    | .ok hits => hits.head?
    | .error _ => none
  | .error _ => none

variable (python : Python)

/-- A field of the payload; one that is no text is shown as `str` has it. -/
def field (payload : Dict Value) (key : String) : String :=
  match (payload.lookup key).getD (.str "") with
  | .str text => text
  | other => python.str other

def find (org_id query : String) (state : IndexState Vector) : FAQMatch :=
  match topHit services engine org_id query state with
  | none => { matched := false }
  | some top =>
    if top.score < faqSimilarityThreshold then { matched := false, score := top.score }
    else
      { matched := true
        answer := field python top.payload "answer"
        question := field python top.payload "question"
        score := top.score
        faq_id := top.id }

end FAQMatcher

namespace RAGRetriever

def stopWords : List String :=
  ("a an the is are was were be been being have has had do does did " ++
    "will would shall should may might must can could not no nor so " ++
    "and or but if then than because as until while of at by for with " ++
    "about against between into through during before after above below " ++
    "to from up down in out on off over under again further that this " ++
    "i you he she it we they what which who whom when where why how " ++
    "me my myself your yourself his him her itself us our ours them " ++
    "their theirs itself itself all each every few more most other " ++
    "some such only own same than too very s t just don don't").splitOn " "

def rrfK : Nat := 60

variable (python : Python) (regex : Regex)

def extractKeywords (query : String) (max_keywords : Nat := 5) : List String :=
  let tokens := (regex.finditer "\\b[\\w\\-\\.]+\\b" false (python.lower query)).map RegexMatch.whole
  let keywords := tokens.filter fun token =>
    !stopWords.contains token && 3 ≤ token.length &&
      !(token ≠ "" && token.toList.all engine.isdigit)
  let unique := keywords.foldl
    (fun unique keyword => if unique.contains keyword then unique else unique ++ [keyword]) []
  unique.take max_keywords

def addRank (scores : Dict (Rat × RetrievedDoc)) (entry : RetrievedDoc × Nat) :
    Dict (Rat × RetrievedDoc) :=
  -- The score of a document goes up by what its rank in one list is worth.
  let (doc, rank) := entry
  let (score, first) := (scores.lookup doc.id).getD (0, doc)
  Dict.put scores doc.id (score + 1 / (rrfK + rank : Nat), first)

def rrfMerge (result_lists : List (List RetrievedDoc)) : List RetrievedDoc :=
  let scores := result_lists.foldl (fun scores results => results.zipIdx.foldl addRank scores) []
  (scores.mergeSort fun one other => other.2.1 ≤ one.2.1).map fun entry => entry.2.2

def resultLists (dense_results keyword_results url_results : List RetrievedDoc) :
    List (List RetrievedDoc) :=
  -- The results of the page go in twice.
  [dense_results] ++ (if keyword_results.isEmpty then [] else [keyword_results]) ++
    (if url_results.isEmpty then [] else [url_results, url_results])

def retrieve (org_id query : String) (top_k : Option Nat := none)
    (filter_conditions : Dict String := []) (page_url : Option String := none)
    (state : IndexState Vector) : Except PyError (List RetrievedDoc) := do
  let top_k := match top_k with
    | none | some 0 => RAGPipeline.topKRetrieval
    | some top_k => top_k
  let candidate_k := top_k * 2
  let query_vector ← Embedder.embedOne services query state
  let dense_results ← search engine org_id query_vector candidate_k filter_conditions state
  let keyword_results := keywordSearch engine org_id query_vector
    (extractKeywords engine python regex query) candidate_k state
  let url_results := match page_url with
    | none | some "" => []
    | some page_url =>
      match search engine org_id query_vector candidate_k [("url", page_url)] state with
      | .ok hits => hits
      | .error _ => []
  let result_lists := resultLists dense_results keyword_results url_results
  let merged := if 1 < result_lists.length then rrfMerge result_lists else dense_results
  return merged.take top_k

end RAGRetriever

namespace Reranker

def rerankSystem : String :=
  "\n".intercalate
    ["You are a relevance scoring system for a customer support knowledge base.", "",
     "Given a QUERY and a numbered list of DOCUMENT EXCERPTS, output a JSON array",
     "of floating-point relevance scores in the SAME ORDER as the documents.", "",
     "Scoring guide:",
     "  0.9 – 1.0  Directly answers the query",
     "  0.7 – 0.8  Closely related, useful supporting context",
     "  0.4 – 0.6  Loosely related",
     "  0.0 – 0.3  Not relevant", "",
     "Rules:",
     "- Respond with ONLY valid JSON, e.g. [0.9, 0.3, 0.7, 0.1, 0.8]",
     "- No explanation, no markdown, no extra text",
     "- Array length MUST equal the number of documents provided", ""]

def maxCandidates : Nat := 8
def minRerankScore : Rat := 35 / 100
def skipRerankThreshold : Rat := 90 / 100

variable (python : Python) (model : LanguageModel)

/-- `value[:350]`. -/
def candidateText (value : Value) : Except PyError Value :=
  match value with
  | .str text => .ok (.str (String.ofList (text.toList.take 350)))
  | .list items => .ok (.list (items.take 350))
  | .dict _ => .error ⟨"TypeError", "unhashable type: 'slice'"⟩
  | other => .error ⟨"TypeError", "'" ++ other.typeName ++ "' object is not subscriptable"⟩

def docLine (entry : RetrievedDoc × Nat) : Except PyError String := do
  let text ← candidateText ((entry.1.payload.lookup "text").getD (.str ""))
  return "[Doc " ++ toString (entry.2 + 1) ++ "]: " ++ python.str text

def scoreRequest (org_id query doc_block : String) : ModelRequest where
  orgId := org_id
  messages := [ModelRequest.userMessage ("QUERY: " ++ query ++ "\n\nDOCUMENTS:\n" ++ doc_block)]
  systemPrompt := rerankSystem

def unfenced (raw : List Char) : List Char :=
  -- What is between the first fence and the next, without its language.
  if backticks.isPrefixOf raw then
    let block := untilBackticks (raw.drop 3)
    if "json".toList.isPrefixOf block then block.drop 4 else block
  else raw
where
  untilBackticks : List Char → List Char
    | [] => []
    | char :: rest =>
      if backticks.isPrefixOf (char :: rest) then [] else char :: untilBackticks rest

/-- `max(0.0, min(1.0, float(s)))`; what is not a number counts as 1. -/
def clamped (score : Value) : Except PyError Rat := do
  let read ← match score with
    | .str text => engine.float text
    | .none | .list _ | .dict _ =>
      .error ⟨"TypeError", "float() argument must be a string or a real number, not '" ++
        score.typeName ++ "'"⟩
    | number => .ok number
  match read with
  | .nonFinite name => return if name = "-Infinity" then 0 else 1
  | number =>
    let value ← toFloat number
    return max 0 (min 1 (value.getD 0))

def scoreDocs (org_id query : String) (docs : List RetrievedDoc) : Except PyError (List Rat) := do
  let lines ← docs.zipIdx.mapM (docLine python)
  let answer ← model.generate (scoreRequest org_id query ("\n\n".intercalate lines))
  let scores ← python.loads (String.ofList (unfenced (strip answer.content.toList)))
  match scores with
  | .list scores =>
    if scores.length = docs.length then scores.mapM (clamped engine)
    else .error ⟨"ValueError", "Unexpected reranker output shape: " ++ python.str (.list scores)⟩
  | other => .error ⟨"ValueError", "Unexpected reranker output shape: " ++ python.str other⟩

def rerank (org_id query : String) (docs : List RetrievedDoc) (top_n : Nat) :
    List RetrievedDoc :=
  match docs with
  | [] => []
  | top :: _ =>
    if skipRerankThreshold ≤ top.score then docs.take top_n
    else
      let candidates := docs.take maxCandidates
      match scoreDocs engine python model org_id query candidates with
      | .error _ => candidates.take top_n
      | .ok scores =>
        let enriched := candidates.zipWith
          (fun doc score => { doc with rerank_score := some score }) scores
        let sorted := enriched.mergeSort fun one other =>
          other.rerank_score.getD 0 ≤ one.rerank_score.getD 0
        (sorted.filter fun doc => minRerankScore ≤ doc.rerank_score.getD 0).take top_n

end Reranker

def surroundings (python : Python) (regex : Regex) (model : LanguageModel)
    (state : IndexState Vector) : RagSurroundings where
  model
  faqMatch org_id query := FAQMatcher.find services engine python org_id query state
  retrieve org_id query top_k :=
    RAGRetriever.retrieve services engine python regex org_id query (some top_k) [] none state
  rerank org_id query docs top_n :=
    .ok (Reranker.rerank engine python model org_id query docs top_n)

section Asked

variable {services engine} {python : Python} {regex : Regex} {state : IndexState Vector}

theorem embedMany_up (up : state.embeddingUp = true) (texts : List String) :
    ∃ vectors reached, Embedder.embedMany services (texts.map .str) state = .ok (vectors, reached) ∧
      vectors.length = texts.length := by
  unfold Embedder.embedMany
  rw [Embedder.mapM_textOf]
  by_cases cached : (texts.filter fun text =>
    (Embedder.cached services state text).isNone).isEmpty = true
  · exact ⟨_, state, if_pos cached, List.length_map ..⟩
  · refine ⟨_, _, (if_neg cached).trans (if_pos up), List.length_map ..⟩

theorem embedOne_up (up : state.embeddingUp = true) (text : String) :
    ∃ vector, Embedder.embedOne services text state = .ok vector := by
  obtain ⟨vectors, reached, done, counted⟩ := @embedMany_up _ services state up [text]
  unfold Embedder.embedOne
  cases vectors with
  | nil => cases counted
  | cons vector rest =>
    refine ⟨vector, ?_⟩
    rw [List.map_singleton] at done
    rw [done]
    rfl

theorem search_ok_iff (up : state.storeUp = true) (org_id : String) (query_vector : Vector)
    (top_k : Nat) (filter_conditions : Dict String) :
    (∃ hits, search engine org_id query_vector top_k filter_conditions state = .ok hits) ↔
      ∃ points, collection org_id state = some points := by
  unfold search searchWhere
  rw [if_pos up]
  cases there : collection org_id state with
  | none => simp
  | some points => simp

theorem retrieve_ok_iff (store : state.storeUp = true) (embedding : state.embeddingUp = true)
    (org_id query : String) (top_k : Option Nat) (filter_conditions : Dict String)
    (page_url : Option String) :
    (∃ docs, RAGRetriever.retrieve services engine python regex org_id query top_k
        filter_conditions page_url state = .ok docs) ↔
      ∃ points, collection org_id state = some points := by
  -- Of the searches of a retrieval only the first has to succeed.
  obtain ⟨vector, embedded⟩ := @embedOne_up _ services state embedding query
  unfold RAGRetriever.retrieve
  rw [embedded]
  constructor
  · rintro ⟨docs, retrieved⟩
    obtain ⟨vector', -, retrieved⟩ := (bind_eq_ok _ _ _).mp retrieved
    obtain ⟨dense, searched, -⟩ := (bind_eq_ok _ _ _).mp retrieved
    exact (search_ok_iff store org_id vector' _ filter_conditions).mp ⟨dense, searched⟩
  · intro there
    obtain ⟨dense, searched⟩ := (search_ok_iff store org_id vector _ filter_conditions).mpr there
    exact ⟨_, (bind_eq_ok _ _ _).mpr
      ⟨vector, rfl, (bind_eq_ok _ _ _).mpr ⟨dense, searched, rfl⟩⟩⟩

end Asked

end Search

end HelpForge.Chatbot
