import HelpForge.Chatbot.Rag.Fusion
import HelpForge.Chatbot.Vectors.Reindexing
import Mathlib.Data.List.Dedup

set_option autoImplicit false

namespace HelpForge.Chatbot

open Lib

/-- What `MatchValue` accepts. -/
def matchable : Value → Bool
  | .str _ | .int _ | .bool _ => true
  | _ => false

def matchesItem : Value → Value → Bool
  | .str wanted, .str value => value == wanted
  | .int wanted, .int value => value == wanted
  | .bool wanted, .bool value => value == wanted
  | _, _ => false

def matchCondition (wanted : Value) : Option Value → Bool
  | some (.list items) => items.any (matchesItem wanted)
  | some value => matchesItem wanted value
  | none => false

def meets (conditions payload : Dict Value) : Bool :=
  conditions.all fun condition => matchCondition condition.2 (payload.lookup condition.1)

theorem matchCondition_str (wanted : String) (value : Option Value) :
    matchCondition (.str wanted) value = matchValue wanted value := by
  cases value with
  | none => rfl
  | some value =>
    cases value with
    | list items =>
      apply congrArg (List.any items)
      funext item
      cases item <;> simp [matchesItem, Value.asStr]
    | _ => rfl

variable {org_id : String}

section Filtered

variable {Vector : Type} (services : IndexServices Vector) (engine : SearchEngine Vector)
  (python : Python) (regex : Regex)

namespace QdrantVectorStore

def buildFilter (conditions : Dict Value) : Except PyError (Dict Value → Bool) :=
  match conditions.find? fun condition => !matchable condition.2 with
  | some condition =>
    .error ⟨"ValidationError", python.validationText "MatchValue" [("value", condition.2)]⟩
  | none => .ok (meets conditions)

def searchFiltered (org_id : String) (query_vector : Vector) (top_k : Nat)
    (filter_conditions : Dict Value) (state : IndexState Vector) :
    Except PyError (List RetrievedDoc) := do
  let filter ← buildFilter python filter_conditions
  searchWhere engine org_id query_vector top_k filter state

end QdrantVectorStore

open QdrantVectorStore

namespace RAGRetriever

/-- `top_k or settings.top_k_retrieval`. -/
def limitOf (top_k : Option Nat) : Nat :=
  match top_k with
  | none | some 0 => RAGPipeline.topKRetrieval
  | some top_k => top_k

/-- `retrieve` with conditions of any kind. -/
def retrieveFiltered (org_id query : String) (top_k : Option Nat) (filter_conditions : Dict Value)
    (page_url : Option String) (state : IndexState Vector) :
    Except PyError (List RetrievedDoc) := do
  let top_k := limitOf top_k
  let candidate_k := top_k * 2
  let query_vector ← Embedder.embedOne services query state
  let dense_results ←
    searchFiltered engine python org_id query_vector candidate_k filter_conditions state
  let keyword_results := keywordSearch engine org_id query_vector
    (extractKeywords engine python regex query) candidate_k state
  let url_results := match page_url with
    | none | some "" => []
    | some page_url =>
      match searchFiltered engine python org_id query_vector candidate_k
          [("url", .str page_url)] state with
      | .ok hits => hits
      | .error _ => []
  let result_lists := resultLists dense_results keyword_results url_results
  let merged := if 1 < result_lists.length then rrfMerge result_lists else dense_results
  return merged.take top_k

theorem searchFiltered_texts (org_id : String) (query_vector : Vector) (top_k : Nat)
    (filter_conditions : Dict String) (state : IndexState Vector) :
    searchFiltered engine python org_id query_vector top_k
        (Dict.mapValues .str filter_conditions) state =
      search engine org_id query_vector top_k filter_conditions state := by
  have accepted : (Dict.mapValues Value.str filter_conditions).find?
      (fun condition => !matchable condition.2) = none := by
    simp [Dict.mapValues, matchable]
  have filter : meets (Dict.mapValues .str filter_conditions) = fun payload =>
      filter_conditions.all fun condition =>
        matchValue condition.2 (payload.lookup condition.1) := by
    funext payload
    simp only [meets, Dict.mapValues, List.all_map, Function.comp_def, matchCondition_str]
  unfold searchFiltered buildFilter
  rw [accepted, filter]
  rfl

theorem retrieve_filtered (org_id query : String) (top_k : Option Nat)
    (filter_conditions : Dict String) (page_url : Option String) (state : IndexState Vector) :
    retrieveFiltered services engine python regex org_id query top_k
        (Dict.mapValues .str filter_conditions) page_url state =
      retrieve services engine python regex org_id query top_k filter_conditions page_url
        state := by
  have pages (page : String) (vector : Vector) (limit : Nat) :
      searchFiltered engine python org_id vector limit [("url", .str page)] state =
        search engine org_id vector limit [("url", page)] state :=
    searchFiltered_texts engine python org_id vector limit [("url", page)] state
  unfold retrieveFiltered retrieve
  simp only [searchFiltered_texts, pages]
  rfl

def denseHits (conditions : Dict Value) (limit : Nat) (vector : Vector)
    (points : Collection Vector) : List RetrievedDoc :=
  engine.nearest vector limit (points.filter fun point => meets conditions point.2.payload)

def keywordHits (query : String) (limit : Nat) (vector : Vector) (points : Collection Vector) :
    List RetrievedDoc :=
  if (extractKeywords engine python regex query).isEmpty then []
  else
    engine.nearest vector limit (points.filter fun point =>
      (extractKeywords engine python regex query).any fun keyword =>
        engine.matchText keyword (point.2.payload.lookup "text"))

def urlHits (page_url : Option String) (limit : Nat) (vector : Vector)
    (points : Collection Vector) : List RetrievedDoc :=
  match page_url with
  | none | some "" => []
  | some page_url => denseHits engine [("url", .str page_url)] limit vector points

def hitLists (query : String) (conditions : Dict Value) (page_url : Option String) (limit : Nat)
    (vector : Vector) (points : Collection Vector) : List (List RetrievedDoc) :=
  resultLists (denseHits engine conditions limit vector points)
    (keywordHits engine python regex query limit vector points)
    (urlHits engine page_url limit vector points)

variable {services engine python regex} {state : IndexState Vector}

theorem searchFiltered_there {org_id : String} {points : Collection Vector}
    (up : state.storeUp = true) (there : collection org_id state = some points)
    (conditions : Dict Value) (accepted : ∀ condition ∈ conditions, matchable condition.2 = true)
    (vector : Vector) (limit : Nat) :
    searchFiltered engine python org_id vector limit conditions state =
      .ok (denseHits engine conditions limit vector points) := by
  have unrefused : conditions.find? (fun condition => !matchable condition.2) = none := by
    rw [List.find?_eq_none]
    intro condition among
    simp [accepted condition among]
  unfold searchFiltered buildFilter searchWhere
  simp [unrefused, up, there, denseHits, bind, Except.bind]

theorem searchFiltered_ok {conditions : Dict Value} {vector : Vector} {limit : Nat}
    {hits : List RetrievedDoc}
    (searched : searchFiltered engine python org_id vector limit conditions state = .ok hits) :
    state.storeUp = true ∧ (∃ points, collection org_id state = some points) ∧
      ∀ condition ∈ conditions, matchable condition.2 = true := by
  obtain ⟨filter, built, searched⟩ := (bind_eq_ok _ _ _).mp searched
  have accepted : ∀ condition ∈ conditions, matchable condition.2 = true := by
    unfold buildFilter at built
    cases refused : conditions.find? fun condition => !matchable condition.2 with
    | some condition =>
      rw [refused] at built
      cases built
    | none =>
      intro condition among
      simpa using List.find?_eq_none.mp refused condition among
  unfold searchWhere at searched
  by_cases up : state.storeUp = true
  · cases there : collection org_id state with
    | none => simp [up, there] at searched
    | some points => exact ⟨up, ⟨points, rfl⟩, accepted⟩
  · simp [up] at searched

theorem retrieveFiltered_there {org_id query : String} {top_k : Option Nat}
    {conditions : Dict Value} {page_url : Option String} {vector : Vector}
    {points : Collection Vector} (embedded : Embedder.embedOne services query state = .ok vector)
    (up : state.storeUp = true) (there : collection org_id state = some points)
    (accepted : ∀ condition ∈ conditions, matchable condition.2 = true)
    (distinct : (ids (denseHits engine conditions (limitOf top_k * 2) vector points)).Nodup) :
    retrieveFiltered services engine python regex org_id query top_k conditions page_url state =
      .ok ((rrfMerge (hitLists engine python regex query conditions page_url (limitOf top_k * 2)
        vector points)).take (limitOf top_k)) := by
  have dense := @searchFiltered_there _ engine python _ _ _ up there conditions accepted vector
    (limitOf top_k * 2)
  have keyword : keywordSearch engine org_id vector (extractKeywords engine python regex query)
      (limitOf top_k * 2) state =
        keywordHits engine python regex query (limitOf top_k * 2) vector points := by
    unfold keywordSearch keywordHits searchWhere
    simp [up, there]
  have pages (page : String) := @searchFiltered_there _ engine python _ _ _ up there
    [("url", .str page)] (by simp [matchable]) vector (limitOf top_k * 2)
  have merged := merged_either_way (denseHits engine conditions (limitOf top_k * 2) vector points)
    (keywordHits engine python regex query (limitOf top_k * 2) vector points)
    (urlHits engine page_url (limitOf top_k * 2) vector points) distinct
  unfold retrieveFiltered hitLists
  rw [← merged, embedded]
  simp only [bind, Except.bind, dense, keyword, pages]
  unfold urlHits
  split <;> rfl

section Cut

variable (result_lists : List (List RetrievedDoc))

def outranking (id : String) : List String :=
  (ids result_lists.flatten).dedup.filter fun other => precedes result_lists other id

theorem mem_take_rrfMerge (distinct : ∀ results ∈ result_lists, (ids results).Nodup) (limit : Nat)
    (id : String) :
    id ∈ (ids (rrfMerge result_lists)).take limit ↔
      id ∈ ids (rrfMerge result_lists) ∧ (outranking result_lists id).length < limit := by
  have ordered : (ids (rrfMerge result_lists)).Pairwise fun one other =>
      decide (precedes result_lists one other) = true :=
    (rrfMerge_ordered result_lists distinct).imp fun before => by simpa using before
  have asymm (one other : String) (before : decide (precedes result_lists one other) = true) :
      decide (precedes result_lists other one) = false := by
    simpa using precedes_asymm result_lists (by simpa using before)
  have same : (ids (rrfMerge result_lists)).Perm (ids result_lists.flatten).dedup := by
    rw [List.perm_ext_iff_of_nodup (rrfMerge_nodup result_lists) (List.nodup_dedup _)]
    intro other
    rw [(ids_perm result_lists).mem_iff, mem_keys, List.mem_dedup]
  have counted := (same.filter fun other => decide (precedes result_lists other id)).length_eq
  rw [mem_take_iff ordered asymm, counted]
  rfl

end Cut

/-- The store answers with points that it was asked about, each of them once. -/
structure Answers (engine : SearchEngine Vector) : Prop where
  found : ∀ vector limit (points : Collection Vector), ∀ hit ∈ engine.nearest vector limit points,
    ∃ point ∈ points, hit.id = point.1 ∧ hit.payload = point.2.payload
  once : ∀ vector limit (points : Collection Vector), (points.map Prod.fst).Nodup →
    (ids (engine.nearest vector limit points)).Nodup

variable {query : String} {conditions : Dict Value} {page_url : Option String} {limit : Nat}
  {vector : Vector} {points : Collection Vector}

theorem nearest_found (answers : Answers engine) (filter : String × StoredPoint Vector → Bool)
    (hit : RetrievedDoc) (among : hit ∈ engine.nearest vector limit (points.filter filter)) :
    ∃ point ∈ points, filter point = true ∧ hit.id = point.1 ∧
      hit.payload = point.2.payload := by
  obtain ⟨point, inside, same⟩ := answers.found _ _ _ hit among
  rw [List.mem_filter] at inside
  exact ⟨point, inside.1, inside.2, same⟩

theorem nearest_once (answers : Answers engine) (distinct : (points.map Prod.fst).Nodup)
    (filter : String × StoredPoint Vector → Bool) :
    (ids (engine.nearest vector limit (points.filter filter))).Nodup := by
  apply answers.once
  exact distinct.sublist (List.filter_sublist.map Prod.fst)

theorem mem_hitLists (results : List RetrievedDoc)
    (listed : results ∈ hitLists engine python regex query conditions page_url limit vector
      points) :
    results = denseHits engine conditions limit vector points ∨
      results = keywordHits engine python regex query limit vector points ∨
      results = urlHits engine page_url limit vector points := by
  unfold hitLists resultLists at listed
  rw [List.mem_append, List.mem_append, List.mem_singleton] at listed
  rcases listed with (dense | keyword) | url
  · exact .inl dense
  · split_ifs at keyword
    · cases keyword
    · exact .inr (.inl (List.mem_singleton.mp keyword))
  · split_ifs at url
    · cases url
    · exact .inr (.inr (by simpa using url))

theorem keywordHits_found (answers : Answers engine) (hit : RetrievedDoc)
    (among : hit ∈ keywordHits engine python regex query limit vector points) :
    ∃ point ∈ points, hit.id = point.1 ∧ hit.payload = point.2.payload := by
  unfold keywordHits at among
  split_ifs at among
  · cases among
  · obtain ⟨point, inside, -, same⟩ := nearest_found answers _ hit among
    exact ⟨point, inside, same⟩

theorem urlHits_found (answers : Answers engine) (hit : RetrievedDoc)
    (among : hit ∈ urlHits engine page_url limit vector points) :
    ∃ point ∈ points, hit.id = point.1 ∧ hit.payload = point.2.payload := by
  unfold urlHits at among
  split at among
  · cases among
  · cases among
  · obtain ⟨point, inside, -, same⟩ := nearest_found answers _ hit among
    exact ⟨point, inside, same⟩

theorem denseHits_meet (answers : Answers engine) (hit : RetrievedDoc)
    (among : hit ∈ denseHits engine conditions limit vector points) :
    meets conditions hit.payload = true := by
  obtain ⟨point, -, passed, -, same⟩ := nearest_found answers _ hit among
  rw [same]
  exact passed

theorem hitLists_once (answers : Answers engine) (distinct : (points.map Prod.fst).Nodup)
    (results : List RetrievedDoc)
    (listed : results ∈ hitLists engine python regex query conditions page_url limit vector
      points) : (ids results).Nodup := by
  rcases mem_hitLists results listed with rfl | rfl | rfl
  · exact nearest_once answers distinct _
  · unfold keywordHits
    split_ifs
    · exact List.nodup_nil
    · exact nearest_once answers distinct _
  · unfold urlHits
    split
    · exact List.nodup_nil
    · exact List.nodup_nil
    · exact nearest_once answers distinct _

variable (engine python regex query conditions page_url limit vector points) in
/-- The hits that fail the conditions: the searches by keyword and by page do not look at them. -/
def strays : List RetrievedDoc :=
  (keywordHits engine python regex query limit vector points ++
    urlHits engine page_url limit vector points).filter fun hit => !meets conditions hit.payload

theorem rrfMerge_listed (result_lists : List (List RetrievedDoc)) (doc : RetrievedDoc)
    (merged : doc ∈ rrfMerge result_lists) : ∃ results ∈ result_lists, doc ∈ results :=
  List.mem_flatten.mp (List.mem_of_find?_eq_some (rrfMerge_first result_lists doc merged))

theorem merged_found (answers : Answers engine) (doc : RetrievedDoc)
    (merged : doc ∈ rrfMerge
      (hitLists engine python regex query conditions page_url limit vector points)) :
    ∃ point ∈ points, doc.id = point.1 ∧ doc.payload = point.2.payload := by
  obtain ⟨results, listed, among⟩ := rrfMerge_listed _ doc merged
  rcases mem_hitLists results listed with rfl | rfl | rfl
  · obtain ⟨point, inside, -, same⟩ := nearest_found answers _ doc among
    exact ⟨point, inside, same⟩
  · exact keywordHits_found answers doc among
  · exact urlHits_found answers doc among

theorem same_payload (distinct : (points.map Prod.fst).Nodup)
    {one other : String × StoredPoint Vector} (first : one ∈ points) (second : other ∈ points)
    (same : one.1 = other.1) : one.2.payload = other.2.payload := by
  have found := Dict.lookup_of_mem points distinct one first
  have again := Dict.lookup_of_mem points distinct other second
  rw [same, again] at found
  exact congrArg StoredPoint.payload (Option.some.inj found).symm

theorem mem_hitLists_flatten (hit : RetrievedDoc)
    (among : hit ∈ keywordHits engine python regex query limit vector points ++
      urlHits engine page_url limit vector points) :
    ∃ results ∈ hitLists engine python regex query conditions page_url limit vector points,
      hit ∈ results := by
  unfold hitLists resultLists
  rcases List.mem_append.mp among with keyword | url
  · have some_hit : (keywordHits engine python regex query limit vector points).isEmpty = false :=
      List.isEmpty_eq_false_iff_exists_mem.mpr ⟨hit, keyword⟩
    exact ⟨_, by simp [some_hit], keyword⟩
  · have some_hit : (urlHits engine page_url limit vector points).isEmpty = false :=
      List.isEmpty_eq_false_iff_exists_mem.mpr ⟨hit, url⟩
    exact ⟨_, by simp [some_hit], url⟩

theorem met_iff_cut (answers : Answers engine) (distinct : (points.map Prod.fst).Nodup)
    (top_k : Nat) :
    (∀ doc ∈ (rrfMerge (hitLists engine python regex query conditions page_url limit vector
        points)).take top_k, meets conditions doc.payload = true) ↔
      ∀ hit ∈ strays engine python regex query conditions page_url limit vector points,
        top_k ≤ (outranking (hitLists engine python regex query conditions page_url limit vector
          points) hit.id).length := by
  have once := @hitLists_once _ engine python regex query conditions page_url limit vector points
    answers distinct
  have left_by := mem_take_rrfMerge _ once top_k
  constructor
  · intro met hit stray
    rw [strays, List.mem_filter] at stray
    obtain ⟨results, listed, among⟩ := @mem_hitLists_flatten _ engine python regex query conditions
      page_url limit vector points hit stray.1
    have merged := (mem_rrfMerge _ hit.id).mpr ⟨results, listed, List.mem_map_of_mem among⟩
    by_contra few
    -- It is returned, then, in the payload that all searches see.
    have returned := (left_by hit.id).mpr ⟨merged, by omega⟩
    rw [ids, ← List.map_take, List.mem_map] at returned
    obtain ⟨doc, among_docs, same⟩ := returned
    obtain ⟨point, inside, named, payload⟩ :=
      merged_found answers doc (List.mem_of_mem_take among_docs)
    have own : ∃ other ∈ points, hit.id = other.1 ∧ hit.payload = other.2.payload := by
      rcases List.mem_append.mp stray.1 with keyword | url
      · exact keywordHits_found answers hit keyword
      · exact urlHits_found answers hit url
    obtain ⟨other, there, other_named, other_payload⟩ := own
    have alike := same_payload distinct inside there (by rw [← named, same, other_named])
    have kept := met doc among_docs
    rw [payload, alike, ← other_payload] at kept
    simp [kept] at stray
  · intro cut doc among
    by_contra unmet
    have merged := List.mem_of_mem_take among
    obtain ⟨results, listed, inside⟩ := rrfMerge_listed _ doc merged
    have returned : doc.id ∈ (ids (rrfMerge (hitLists engine python regex query conditions page_url
        limit vector points))).take top_k := by
      rw [ids, ← List.map_take]
      exact List.mem_map_of_mem among
    have few := ((left_by doc.id).mp returned).2
    have stray : doc ∈ strays engine python regex query conditions page_url limit vector
        points := by
      rw [strays, List.mem_filter, List.mem_append]
      rcases mem_hitLists results listed with rfl | rfl | rfl
      · exact absurd (denseHits_meet answers doc inside) unmet
      · exact ⟨.inl inside, by simpa using unmet⟩
      · exact ⟨.inr inside, by simpa using unmet⟩
    have many := cut doc stray
    omega

theorem retrieveFiltered_ok {top_k : Option Nat} {docs : List RetrievedDoc}
    (retrieved : retrieveFiltered services engine python regex org_id query top_k conditions
      page_url state = .ok docs) :
    ∃ vector points, Embedder.embedOne services query state = .ok vector ∧
      state.storeUp = true ∧ collection org_id state = some points ∧
      ∀ condition ∈ conditions, matchable condition.2 = true := by
  obtain ⟨vector, embedded, retrieved⟩ := (bind_eq_ok _ _ _).mp retrieved
  obtain ⟨dense, searched, -⟩ := (bind_eq_ok _ _ _).mp retrieved
  obtain ⟨up, ⟨points, there⟩, accepted⟩ := searchFiltered_ok searched
  exact ⟨vector, points, embedded, up, there, accepted⟩

/-- A retrieval keeps to its conditions just when each hit of the other two searches that fails
them has so many documents before it that the cut drops it. -/
theorem filter_respected_iff (answers : Answers engine) (org_id query : String)
    (top_k : Option Nat) (conditions : Dict Value) (page_url : Option String)
    (distinct : ∀ points, collection org_id state = some points → (points.map Prod.fst).Nodup) :
    (∀ docs, retrieveFiltered services engine python regex org_id query top_k conditions page_url
        state = .ok docs → ∀ doc ∈ docs, meets conditions doc.payload = true) ↔
      ∀ vector points, Embedder.embedOne services query state = .ok vector →
        state.storeUp = true → collection org_id state = some points →
        (∀ condition ∈ conditions, matchable condition.2 = true) →
        ∀ hit ∈ strays engine python regex query conditions page_url (limitOf top_k * 2) vector
          points,
          limitOf top_k ≤ (outranking (hitLists engine python regex query conditions page_url
            (limitOf top_k * 2) vector points) hit.id).length := by
  constructor
  · intro respected vector points embedded up there accepted
    have dense : (ids (denseHits engine conditions (limitOf top_k * 2) vector points)).Nodup :=
      nearest_once answers (distinct points there) _
    have retrieved := @retrieveFiltered_there _ services engine python regex state org_id query
      top_k conditions page_url vector points embedded up there accepted dense
    exact (met_iff_cut answers (distinct points there) _).mp (respected _ retrieved)
  · intro cut docs returned
    obtain ⟨vector, points, embedded, up, there, accepted⟩ := retrieveFiltered_ok returned
    have dense : (ids (denseHits engine conditions (limitOf top_k * 2) vector points)).Nodup :=
      nearest_once answers (distinct points there) _
    have retrieved := @retrieveFiltered_there _ services engine python regex state org_id query
      top_k conditions page_url vector points embedded up there accepted dense
    rw [retrieved] at returned
    cases returned
    exact (met_iff_cut answers (distinct points there) _).mpr
      (cut vector points embedded up there accepted)

end RAGRetriever

end Filtered

namespace RAGRetriever

/-- An engine for which all points are as near. -/
def shelfEngine : SearchEngine Unit where
  nearest _ limit points := (points.take limit).map fun point =>
    { id := point.1, score := 1, payload := point.2.payload }
  matchText _ _ := false
  isdigit := Char.isDigit
  float _ := .error ⟨"ValueError", "could not convert string to float"⟩

theorem shelfEngine_answers : Answers shelfEngine := by
  constructor
  · intro vector limit points hit among
    obtain ⟨point, inside, rfl⟩ := List.mem_map.mp among
    exact ⟨point, List.mem_of_mem_take inside, rfl, rfl⟩
  · intro vector limit points distinct
    have same : ids (shelfEngine.nearest vector limit points) =
        (points.take limit).map Prod.fst := by
      simp only [ids, shelfEngine, List.map_map]
      rfl
    rw [same]
    exact distinct.sublist ((List.take_sublist ..).map Prod.fst)

/-- A pattern that finds the whole text. -/
def wholeRegex : Regex where
  search _ _ := false
  finditer _ _ text := [⟨text, none⟩]

def litePage : Dict Value :=
  [("url", .str "/lite"), ("product_id", .str "lite"), ("text", .str "Lite has no API.")]

def liteIndex : IndexState Unit where
  collections := [("org_acme", [("p1", ⟨(), litePage⟩)])]

theorem liteIndex_distinct (points : Collection Unit)
    (there : QdrantVectorStore.collection "acme" liteIndex = some points) :
    (points.map Prod.fst).Nodup := by
  cases there
  decide

theorem short_query : extractKeywords shelfEngine (.reading .none) wholeRegex "hi" = [] := by
  have lowered : (Python.reading .none).lower "hi" = "hi" := by decide
  have brief : ¬3 ≤ "hi".length := by decide
  simp [extractKeywords, wholeRegex, lowered, brief]

theorem lite_embedded : Embedder.embedOne plainServices "hi" liteIndex = .ok () := by
  decide

theorem filter_kept_without_page :
    ∃ docs, retrieveFiltered plainServices shelfEngine (.reading .none) wholeRegex "acme" "hi"
        none [("product_id", .str "pro")] none liteIndex = .ok docs ∧
      ∀ doc ∈ docs, meets [("product_id", .str "pro")] doc.payload = true := by
  have there : QdrantVectorStore.collection "acme" liteIndex = some [("p1", ⟨(), litePage⟩)] := rfl
  have once := @nearest_once _ shelfEngine (limitOf none * 2) () _ shelfEngine_answers
    (liteIndex_distinct _ there)
  have retrieved := @retrieveFiltered_there _ plainServices shelfEngine (.reading .none) wholeRegex
    liteIndex "acme" "hi" none [("product_id", .str "pro")] none () _ lite_embedded rfl there
    (by simp [matchable]) (once _)
  refine ⟨_, retrieved, (filter_respected_iff shelfEngine_answers "acme" "hi" none
    [("product_id", .str "pro")] none liteIndex_distinct).mpr ?_ _ retrieved⟩
  intro vector points embedded up there accepted hit stray
  simp [strays, keywordHits, urlHits, short_query] at stray

theorem filter_lost_on_page :
    ¬∀ docs, retrieveFiltered plainServices shelfEngine (.reading .none) wholeRegex "acme" "hi"
        none [("product_id", .str "pro")] (some "/lite") liteIndex = .ok docs →
      ∀ doc ∈ docs, meets [("product_id", .str "pro")] doc.payload = true := by
  intro respected
  have there : QdrantVectorStore.collection "acme" liteIndex = some [("p1", ⟨(), litePage⟩)] := rfl
  have once := @nearest_once _ shelfEngine (limitOf none * 2) () _ shelfEngine_answers
    (liteIndex_distinct _ there)
  have retrieved := @retrieveFiltered_there _ plainServices shelfEngine (.reading .none) wholeRegex
    liteIndex "acme" "hi" none [("product_id", .str "pro")] (some "/lite") () _ lite_embedded rfl
    there (by simp [matchable]) (once _)
  have hits : hitLists shelfEngine (.reading .none) wholeRegex "hi" [("product_id", .str "pro")]
      (some "/lite") (limitOf none * 2) () [("p1", ⟨(), litePage⟩)] =
        [[], [⟨"p1", 1, litePage, none⟩], [⟨"p1", 1, litePage, none⟩]] := by
    have none_found : keywordHits shelfEngine (.reading .none) wholeRegex "hi" (limitOf none * 2) ()
        [("p1", ⟨(), litePage⟩)] = [] := by
      simp [keywordHits, short_query]
    rw [hitLists, none_found]
    rfl
  have stray : (⟨"p1", 1, litePage, none⟩ : RetrievedDoc) ∈ strays shelfEngine (.reading .none)
      wholeRegex "hi" [("product_id", .str "pro")] (some "/lite") (limitOf none * 2) ()
      [("p1", ⟨(), litePage⟩)] := by
    rw [strays, List.mem_filter]
    constructor
    · apply List.mem_append_right
      exact List.mem_singleton_self _
    · decide
  have cut := (met_iff_cut shelfEngine_answers (liteIndex_distinct _ there) _).mp
    (respected _ retrieved) _ stray
  have ahead : outranking (hitLists shelfEngine (.reading .none) wholeRegex "hi"
      [("product_id", .str "pro")] (some "/lite") (limitOf none * 2) ()
      [("p1", ⟨(), litePage⟩)]) "p1" = [] := by
    rw [outranking, List.filter_eq_nil_iff]
    intro other among
    have own : other = "p1" := by simpa [hits, ids] using among
    subst own
    simpa using fun before => precedes_asymm _ before before
  rw [ahead] at cut
  cases cut

end RAGRetriever

end HelpForge.Chatbot
