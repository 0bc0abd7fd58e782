import HelpForge.Chatbot.Rag.Retriever
import HelpForge.Chatbot.Vectors.Embedding
import HelpForge.Lib.Keyed
import Mathlib.Data.List.MinMax
import Mathlib.Tactic.Linarith
import Mathlib.Tactic.NormNum

set_option autoImplicit false

namespace HelpForge.Chatbot

open Lib

variable {entry : FAQEntry} {written : List (String × FAQEntry)} {faq_id : String}

section Faq

variable {Vector : Type} (pointIds : String → Option String) (services : IndexServices Vector)

namespace QdrantVectorStore

def invalidPointId : PyError :=
  ⟨"UnexpectedResponse", "Unexpected Response: 400 (Bad Request)"⟩

/-- The store takes an id for the point that it stands for; one that is neither an unsigned integer
nor a UUID it refuses, and with it the request. -/
def upsertIdentified (org_id : String) (points : List (String × StoredPoint Vector))
    (state : IndexState Vector) : Except PyError (Unit × IndexState Vector) :=
  match points.mapM fun point => (pointIds point.1).map fun id => (id, point.2) with
  | some points => upsertPoints org_id points state
  | none => .error (if state.storeUp then invalidPointId else unreachable)

end QdrantVectorStore

open QdrantVectorStore Embedder DocumentService

namespace DocumentService

def upsertFaqs (request : UpsertFAQRequest) (state : IndexState Vector) :
    Except PyError (IndexReply × IndexState Vector) :=
  if request.faqs.isEmpty then .ok (.upserted request.org_id 0 "success", state)
  else do
    let (vectors, reached) ←
      embedMany services (request.faqs.map fun entry => .str entry.question) state
    let payloads := request.faqs.map (faqPayload request.org_id state.embedding_version)
    let ids := request.faqs.map FAQEntry.faq_id
    let (_, reached) ←
      upsertIdentified pointIds request.org_id (zipPoints ids vectors payloads) reached
    return (.upserted request.org_id request.faqs.length "success", reached)

def upsertAll (requests : List UpsertFAQRequest) (state : IndexState Vector) :
    Except PyError (IndexState Vector) :=
  requests.foldlM (fun state request => do
    let (_, reached) ← upsertFaqs pointIds services request state
    return reached) state

end DocumentService

theorem upsertFaqs_alone (request : UpsertFAQRequest) (state : IndexState Vector) :
    IndexCall.complete services 2 (.upsertFaqs request) state =
      match upsertFaqs some services request state with
      | .ok (reply, reached) => (.finished (.ok reply), reached)
      | .error error => (.finished (.error error),
          match embedMany services (request.faqs.map fun entry => .str entry.question) state with
          | .ok (_, reached) => reached
          | .error _ => state) := by
  have taken (points : List (String × StoredPoint Vector)) :
      points.mapM (fun point => (some point.1).map fun id => (id, point.2)) = some points := by
    induction points with
    | nil => rfl
    | cons point rest ih => simp only [List.mapM_cons, ih]; rfl
  unfold upsertFaqs
  split_ifs with empty
  · simp [IndexCall.complete, IndexCall.advance, empty]
  · simp only [IndexCall.complete, IndexCall.advance, empty, Bool.false_eq_true, if_false]
    cases embedMany services (request.faqs.map fun entry => .str entry.question) state with
    | error error => rfl
    | ok embedded =>
      obtain ⟨vectors, reached⟩ := embedded
      simp only [IndexCall.proceed, upsert, upsertIdentified, taken, bind, Except.bind]
      cases upsertPoints request.org_id (zipPoints (request.faqs.map FAQEntry.faq_id) vectors
        (request.faqs.map (faqPayload request.org_id state.embedding_version))) reached <;> rfl

def journal (org_id : String) (requests : List UpsertFAQRequest) : List (String × FAQEntry) :=
  (requests.filter fun request => request.org_id = org_id).flatMap fun request =>
    request.faqs.map fun entry => (entry.faq_id, entry)

def placed (written : List (String × FAQEntry)) : List (String × FAQEntry) :=
  written.map fun entry => ((pointIds entry.1).getD "", entry.2)

def isFaq (payload : Dict Value) : Bool := matchValue "faq" (payload.lookup "source_type")

variable {services} (embed : String → Vector)

def faqPoint (org_id version : String) (entry : FAQEntry) : StoredPoint Vector :=
  ⟨embed entry.question, faqPayload org_id version entry⟩

/-- The FAQ points of a collection are the last entries of their places. -/
structure Holds (org_id version : String) (written : List (String × FAQEntry))
    (points : Collection Vector) : Prop where
  distinct : (points.map Prod.fst).Nodup
  last : ∀ place entry, latest place written = some entry →
    points.lookup place = some (faqPoint embed org_id version entry)
  others : ∀ place point, latest place written = none → points.lookup place = some point →
    isFaq point.payload = false

variable {points : Collection Vector}

section Holds

variable {org_id version : String} (holds : Holds embed org_id version written points)

include holds

theorem Holds.put (place : String) (entry : FAQEntry) :
    Holds embed org_id version (written ++ [(place, entry)])
      (Dict.put points place (faqPoint embed org_id version entry)) where
  distinct := Dict.nodup_merge points [(place, _)] holds.distinct
  last := by
    intro other found last
    rw [latest_append] at last
    rw [Dict.lookup_put]
    split_ifs at last with same
    · rw [if_pos same.symm, ← Option.some.inj last]
    · rw [if_neg (Ne.symm same), holds.last other found last]
  others := by
    intro other point absent there
    rw [latest_append] at absent
    rw [Dict.lookup_put] at there
    split_ifs at absent with same
    rw [if_neg (Ne.symm same)] at there
    exact holds.others other point absent there

theorem Holds.merge (added : List (String × FAQEntry)) :
    Holds embed org_id version (written ++ added) (Dict.merge points
      (added.map fun entry => (entry.1, faqPoint embed org_id version entry.2))) := by
  induction added generalizing written points with
  | nil => simpa [Dict.merge] using holds
  | cons entry rest ih =>
    have next := ih (holds.put embed entry.1 entry.2)
    rw [List.append_assoc] at next
    exact next

end Holds

section Stored

variable {pointIds} {known : String → Prop} {state : IndexState Vector}

def Accepted (pointIds : String → Option String) (request : UpsertFAQRequest) : Prop :=
  ∀ entry ∈ request.faqs, (pointIds entry.faq_id).isSome

theorem identify (faqs : List FAQEntry) (point : FAQEntry → StoredPoint Vector) :
    ((faqs.map fun entry => (entry.faq_id, point entry)).mapM fun point =>
        (pointIds point.1).map fun id => (id, point.2)) =
      if ∀ entry ∈ faqs, (pointIds entry.faq_id).isSome then
        some (faqs.map fun entry => ((pointIds entry.faq_id).getD "", point entry))
      else none := by
  induction faqs with
  | nil => rfl
  | cons entry rest ih =>
    rw [List.map_cons, List.mapM_cons, ih]
    cases taken : pointIds entry.faq_id with
    | none => simp [taken]
    | some id =>
      by_cases later : ∀ entry ∈ rest, (pointIds entry.faq_id).isSome
      · simp [taken, if_pos later]
      · simp [taken, later]

theorem faithful_writeCache (distinct : CachedEmbedding.Distinct services known)
    (faithful : CachedEmbedding.Faithful services (services.model state.embedding_version) known
      state) (texts : List String) (asked : ∀ text ∈ texts, known text) :
    CachedEmbedding.Faithful services (services.model state.embedding_version) known
      (writeCache services texts state) := by
  have written := faithful.write distinct (texts.map fun text => (text, 0)) (by simpa using asked)
  have same : (texts.map fun text => (text, 0)).map Prod.fst = texts := by
    rw [List.map_map]
    exact List.map_id texts
  rw [CachedEmbedding.writeVectors_map, same] at written
  exact written

theorem embedMany_faithful (distinct : CachedEmbedding.Distinct services known)
    (faithful : CachedEmbedding.Faithful services (services.model state.embedding_version) known
      state) (up : state.embeddingUp = true) (texts : List String)
    (asked : ∀ text ∈ texts, known text) :
    ∃ cache, embedMany services (texts.map .str) state =
        .ok (texts.map (services.model state.embedding_version), { state with cache }) ∧
      CachedEmbedding.Faithful services (services.model state.embedding_version) known
        { state with cache } := by
  have plain : texts.map (vectorOf services state) =
      texts.map (services.model state.embedding_version) := by
    apply List.map_congr_left
    intro text among
    unfold vectorOf
    cases found : cached services state text with
    | none => rfl
    | some vector => exact faithful.cached (asked text among) found
  obtain ⟨vectors, reached, done, -⟩ := @embedMany_up _ services state up texts
  obtain ⟨texts', same, rfl, ends⟩ := embedMany_ok done
  obtain rfl : texts = texts' := List.map_injective_iff.mpr (fun _ _ => Value.str.inj) same
  rw [done, plain]
  rcases ends with rfl | rfl
  · exact ⟨_, rfl, faithful⟩
  · refine ⟨_, rfl, faithful_writeCache distinct faithful _ ?_⟩
    intro text among
    exact asked text (List.mem_filter.mp among).1

variable (pointIds services known) in
/-- What holds after the calls for some requests, since a start. -/
structure Stored (start : IndexState Vector) (requests : List UpsertFAQRequest)
    (state : IndexState Vector) : Prop where
  version : state.embedding_version = start.embedding_version
  store : state.storeUp = true
  embedding : state.embeddingUp = true
  cache : CachedEmbedding.Faithful services (services.model state.embedding_version) known state
  holds : ∀ org_id, Holds (services.model state.embedding_version) org_id state.embedding_version
    (placed pointIds (journal org_id requests)) ((collection org_id state).getD [])

theorem collection_set (org_id other : String) (points : Collection Vector) :
    collection other (setCollection org_id points state) =
      if other = org_id then some points else collection other state := by
  simp [collection, setCollection, Dict.lookup_put, collectionName]

theorem journal_append (org_id : String) (requests : List UpsertFAQRequest)
    (request : UpsertFAQRequest) :
    placed pointIds (journal org_id (requests ++ [request])) =
      placed pointIds (journal org_id requests) ++
        if request.org_id = org_id then
          request.faqs.map fun entry => ((pointIds entry.faq_id).getD "", entry)
        else [] := by
  by_cases own : request.org_id = org_id <;> simp [journal, placed, own]

section Call

variable {start : IndexState Vector} {requests : List UpsertFAQRequest} {request : UpsertFAQRequest}
  (distinct : CachedEmbedding.Distinct services known)
  (stored : Stored pointIds services known start requests state)
  (asked : ∀ entry ∈ request.faqs, known entry.question)

include distinct stored asked

theorem Stored.upsert :
    (∃ outcome, upsertFaqs pointIds services request state = .ok outcome ∧
        Stored pointIds services known start (requests ++ [request]) outcome.2 ∧
        Accepted pointIds request) ∨
      (∃ error, upsertFaqs pointIds services request state = .error error) ∧
        ¬Accepted pointIds request := by
  by_cases empty : request.faqs.isEmpty = true
  · refine .inl ⟨_, if_pos empty, { stored with holds := ?_ }, ?_⟩
    · intro org_id
      rw [journal_append, List.isEmpty_iff.mp empty]
      simpa using stored.holds org_id
    · rw [Accepted, List.isEmpty_iff.mp empty]
      nofun
  obtain ⟨cache, embedded, faithful⟩ := embedMany_faithful distinct stored.cache stored.embedding
    (request.faqs.map FAQEntry.question) (by simpa using asked)
  rw [List.map_map] at embedded
  have points : zipPoints (request.faqs.map FAQEntry.faq_id)
      ((request.faqs.map FAQEntry.question).map (services.model state.embedding_version))
      (request.faqs.map (faqPayload request.org_id state.embedding_version)) =
      request.faqs.map fun entry => (entry.faq_id, faqPoint
        (services.model state.embedding_version) request.org_id state.embedding_version entry) := by
    simp [zipPoints, faqPoint, List.zipWith_map, List.zip_map', List.zipWith_self]
  have run : upsertFaqs pointIds services request state = do
      let (vectors, reached) ←
        embedMany services (request.faqs.map (Value.str ∘ FAQEntry.question)) state
      let (_, reached) ← upsertIdentified pointIds request.org_id
        (zipPoints (request.faqs.map FAQEntry.faq_id) vectors
          (request.faqs.map (faqPayload request.org_id state.embedding_version))) reached
      return (.upserted request.org_id request.faqs.length "success", reached) := if_neg empty
  rw [embedded] at run
  simp only [bind, Except.bind, points, upsertIdentified, identify] at run
  by_cases accepted : ∀ entry ∈ request.faqs, (pointIds entry.faq_id).isSome = true
  · rw [if_pos accepted] at run
    simp only [upsertPoints] at run
    rw [if_pos stored.store] at run
    refine .inl ⟨_, run, { stored with cache := faithful, holds := ?_ }, accepted⟩
    intro org_id
    rw [journal_append]
    change Holds (services.model state.embedding_version) org_id state.embedding_version _
      ((collection org_id (setCollection _ _ _)).getD [])
    rw [collection_set]
    by_cases own : org_id = request.org_id
    · subst own
      have merged := (stored.holds request.org_id).merge (services.model state.embedding_version)
        (request.faqs.map fun entry => ((pointIds entry.faq_id).getD "", entry))
      rw [List.map_map] at merged
      rw [if_pos rfl, if_pos rfl]
      exact merged
    · rw [if_neg own, if_neg (Ne.symm own), List.append_nil]
      exact stored.holds org_id
  · rw [if_neg accepted] at run
    exact .inr ⟨⟨_, run⟩, accepted⟩

end Call

theorem upsertAll_append (requests : List UpsertFAQRequest) (request : UpsertFAQRequest) :
    upsertAll pointIds services (requests ++ [request]) state =
      (upsertAll pointIds services requests state >>= fun reached =>
        (upsertFaqs pointIds services request reached).map Prod.snd) := by
  simp only [upsertAll, List.foldlM_append, List.foldlM_cons, List.foldlM_nil, bind_pure]
  congr 1

variable (pointIds) in
theorem upsertAll_stored (distinct : CachedEmbedding.Distinct services known)
    {start : IndexState Vector} (begun : Stored pointIds services known start [] start)
    (requests : List UpsertFAQRequest)
    (asked : ∀ request ∈ requests, ∀ entry ∈ request.faqs, known entry.question) :
    (∃ final, upsertAll pointIds services requests start = .ok final ∧
        Stored pointIds services known start requests final ∧
        ∀ request ∈ requests, Accepted pointIds request) ∨
      (∃ error, upsertAll pointIds services requests start = .error error) ∧
        ¬∀ request ∈ requests, Accepted pointIds request := by
  induction requests using List.reverseRecOn with
  | nil => exact .inl ⟨start, rfl, begun, nofun⟩
  | append_singleton requests request ih =>
    rw [upsertAll_append]
    have earlier := ih fun other among => asked other (List.mem_append_left _ among)
    have own := asked request (by simp)
    rcases earlier with ⟨reached, run, stored, accepted⟩ | ⟨⟨error, failed⟩, refused⟩
    · rw [run]
      rcases stored.upsert distinct own with
        ⟨⟨reply, final⟩, done, stored, taken⟩ | ⟨⟨error, failed⟩, refused⟩
      · refine .inl ⟨final, by simp [bind, Except.bind, done, Except.map], stored, ?_⟩
        intro other among
        rcases List.mem_append.mp among with before | last
        · exact accepted other before
        · exact List.mem_singleton.mp last ▸ taken
      · exact .inr ⟨⟨error, by simp [bind, Except.bind, failed, Except.map]⟩,
          fun all => refused (all request (by simp))⟩
    · right
      rw [failed]
      exact ⟨⟨error, rfl⟩, fun all => refused fun other among =>
        all other (List.mem_append_left _ among)⟩

section Match

variable (engine : SearchEngine Vector) (python : Python) (similarity : Vector → Vector → Rat)

def Ranks : Prop :=
  ∀ (vector : Vector) (points : Collection Vector),
    match (engine.nearest vector 1 points).head? with
    | none => points = []
    | some top => ∃ point ∈ points, top.payload = point.2.payload ∧
        top.score = similarity vector point.2.vector ∧
        ∀ other ∈ points, similarity vector other.2.vector ≤ top.score

structure Discerns (embed : String → Vector) (known : String → Prop) : Prop where
  same : ∀ question, known question → similarity (embed question) (embed question) = 1
  other : ∀ one other, known one → known other → one ≠ other →
    similarity (embed one) (embed other) < FAQMatcher.faqSimilarityThreshold

variable {engine similarity}

theorem Holds.mem_faqs {embed : String → Vector} {org_id version : String}
    (holds : Holds embed org_id version written points) (place : String)
    (point : StoredPoint Vector) :
    (place, point) ∈ points.filter (fun point => isFaq point.2.payload) ↔
      ∃ entry, latest place written = some entry ∧ point = faqPoint embed org_id version entry := by
  rw [List.mem_filter]
  constructor
  · rintro ⟨among, faq⟩
    have there := Dict.lookup_of_mem points holds.distinct _ among
    cases last : latest place written with
    | none =>
      have plain := holds.others place point last there
      rw [faq] at plain
      cases plain
    | some entry =>
      have stored := holds.last place entry last
      rw [there] at stored
      exact ⟨entry, rfl, Option.some.inj stored⟩
  · rintro ⟨entry, last, rfl⟩
    exact ⟨Dict.mem_of_lookup _ _ _ (holds.last place entry last), rfl⟩

def Stated (requests : List UpsertFAQRequest) (question : String) : Prop :=
  ∃ request ∈ requests, ∃ entry ∈ request.faqs, question = entry.question

theorem stated_of_latest {requests : List UpsertFAQRequest} {org_id : String}
    (last : latest faq_id (journal org_id requests) = some entry) :
    Stated requests entry.question := by
  obtain ⟨request, among, inside⟩ := List.mem_flatMap.mp (mem_of_latest last)
  obtain ⟨entry', own, same⟩ := List.mem_map.mp inside
  cases same
  exact ⟨request, (List.mem_filter.mp among).1, entry, own, rfl⟩

section Find

variable {requests : List UpsertFAQRequest} {start : IndexState Vector} {org_id question : String}
  (distinct : CachedEmbedding.Distinct services (Stated requests))
  (stored : Stored pointIds services (Stated requests) start requests state)
  (ranks : Ranks engine similarity)
  (discerns : Discerns similarity (services.model state.embedding_version) (Stated requests))
  (asks : Stated requests question)

variable (engine org_id) in
include distinct stored asks in
theorem topHit_stored :
    FAQMatcher.topHit services engine org_id question state =
      match collection org_id state with
      | some points => (engine.nearest (services.model state.embedding_version question) 1
          (points.filter fun point => isFaq point.2.payload)).head?
      | none => none := by
  obtain ⟨cache, embedded, -⟩ :=
    embedMany_faithful distinct stored.cache stored.embedding [question] (by simpa using asks)
  have vector : embedOne services question state =
      .ok (services.model state.embedding_version question) := by
    rw [List.map_singleton, List.map_singleton] at embedded
    rw [embedOne, embedded]
    rfl
  unfold FAQMatcher.topHit
  rw [vector]
  simp only [search, searchWhere, stored.store, if_true]
  cases collection org_id state with
  | none => rfl
  | some points => simp [isFaq]

include distinct stored ranks discerns asks

theorem matched_last
    (matched : (FAQMatcher.find services engine python org_id question state).matched = true) :
    ∃ place entry, latest place (placed pointIds (journal org_id requests)) = some entry ∧
      entry.question = question ∧
      (FAQMatcher.find services engine python org_id question state).answer = entry.answer := by
  have top := topHit_stored engine org_id distinct stored asks
  have holds := stored.holds org_id
  cases there : collection org_id state with
  | none =>
    rw [there] at top
    simp [FAQMatcher.find, top] at matched
  | some points =>
    rw [there] at top holds
    have best := ranks (services.model state.embedding_version question)
      (points.filter fun point => isFaq point.2.payload)
    simp only at top
    rw [← top] at best
    cases hit : FAQMatcher.topHit services engine org_id question state with
    | none => simp [FAQMatcher.find, hit] at matched
    | some found =>
      rw [hit] at best
      obtain ⟨⟨place, point⟩, among, payload, score, -⟩ := best
      obtain ⟨entry, last, rfl⟩ := (holds.mem_faqs place point).mp among
      have high : ¬found.score < FAQMatcher.faqSimilarityThreshold := by
        intro low
        simp [FAQMatcher.find, hit, low] at matched
      have same : entry.question = question := by
        by_contra differs
        obtain ⟨id, -, before⟩ := latest_rekeyed (fun id => (pointIds id).getD "") last
        have low := discerns.other question entry.question asks (stated_of_latest before)
          (Ne.symm differs)
        rw [score] at high
        exact high low
      refine ⟨place, entry, last, same, ?_⟩
      simp only [FAQMatcher.find, hit, high, if_false, payload]
      rfl

theorem matched_of_last {place : String}
    (last : latest place (placed pointIds (journal org_id requests)) = some entry)
    (same : entry.question = question) :
    (FAQMatcher.find services engine python org_id question state).matched = true := by
  have top := topHit_stored engine org_id distinct stored asks
  have holds := stored.holds org_id
  cases there : collection org_id state with
  | none =>
    rw [there] at holds
    cases holds.last place entry last
  | some points =>
    rw [there] at top holds
    have among := (holds.mem_faqs place _).mpr ⟨entry, last, rfl⟩
    have best := ranks (services.model state.embedding_version question)
      (points.filter fun point => isFaq point.2.payload)
    simp only at top
    rw [← top] at best
    cases hit : FAQMatcher.topHit services engine org_id question state with
    | none =>
      rw [hit] at best
      simp only at best
      change _ ∈ points.filter _ at among
      rw [best] at among
      cases among
    | some found =>
      rw [hit] at best
      obtain ⟨point, -, -, -, most⟩ := best
      have one := most _ among
      rw [faqPoint, same, discerns.same question asks] at one
      have high : ¬found.score < FAQMatcher.faqSimilarityThreshold := by
        have below : FAQMatcher.faqSimilarityThreshold < 1 := by
          norm_num [FAQMatcher.faqSimilarityThreshold]
        intro low
        linarith
      simp [FAQMatcher.find, hit, high]

end Find

variable (services) (engine) (similarity) in
/-- What is taken for granted: the services are up, the store ranks by likeness, the hashes of the
questions differ, and so do the questions of different ids. -/
structure Assumed (start : IndexState Vector) (requests : List UpsertFAQRequest) : Prop where
  store : start.storeUp = true
  embedding : start.embeddingUp = true
  noFaqs : ∀ org_id points, collection org_id start = some points →
    (points.map Prod.fst).Nodup ∧ ∀ point ∈ points, isFaq point.2.payload = false
  hashes : CachedEmbedding.Distinct services (Stated requests)
  cache : CachedEmbedding.Faithful services (services.model start.embedding_version)
    (Stated requests) start
  ranks : Ranks engine similarity
  discerns : Discerns similarity (services.model start.embedding_version) (Stated requests)
  questions : ∀ org_id one other entry entry', latest one (journal org_id requests) = some entry →
    latest other (journal org_id requests) = some entry' → entry.question = entry'.question →
      one = other

variable (pointIds services engine) in
/-- Each call succeeds, and then the last question of an id has the last answer of it. -/
def RoundTrips (requests : List UpsertFAQRequest) (start : IndexState Vector) : Prop :=
  ∃ final, upsertAll pointIds services requests start = .ok final ∧
    ∀ org_id faq_id entry, latest faq_id (journal org_id requests) = some entry →
      (FAQMatcher.find services engine python org_id entry.question final).matched = true ∧
        (FAQMatcher.find services engine python org_id entry.question final).answer = entry.answer

variable (pointIds) in
/-- The ids are ones that the store accepts, and no two of an organisation stand for one point. -/
structure WellIdentified (requests : List UpsertFAQRequest) : Prop where
  accepted : ∀ request ∈ requests, Accepted pointIds request
  injective : ∀ org_id one other entry entry', latest one (journal org_id requests) = some entry →
    latest other (journal org_id requests) = some entry' → pointIds one = pointIds other →
      one = other

section Trip

variable {start final : IndexState Vector} {requests : List UpsertFAQRequest}

theorem Assumed.begun (assumed : Assumed services engine similarity start requests) :
    Stored pointIds services (Stated requests) start [] start where
  version := rfl
  store := assumed.store
  embedding := assumed.embedding
  cache := assumed.cache
  holds := by
    intro org_id
    cases there : collection org_id start with
    | none => exact ⟨List.nodup_nil, nofun, nofun⟩
    | some points =>
      obtain ⟨distinct, plain⟩ := assumed.noFaqs org_id points there
      exact ⟨distinct, nofun, fun place point _ found =>
        plain _ (Dict.mem_of_lookup _ _ _ found)⟩

variable {org_id : String}

theorem Assumed.matched_latest (assumed : Assumed services engine similarity start requests)
    (stored : Stored pointIds services (Stated requests) start requests final)
    {org_id faq_id : String} {entry : FAQEntry}
    (last : latest faq_id (journal org_id requests) = some entry)
    (matched :
      (FAQMatcher.find services engine python org_id entry.question final).matched = true) :
    latest ((pointIds faq_id).getD "") (placed pointIds (journal org_id requests)) = some entry ∧
      (FAQMatcher.find services engine python org_id entry.question final).answer =
        entry.answer := by
  have discerns := assumed.discerns
  rw [← stored.version] at discerns
  obtain ⟨place, found, there, same, answer⟩ := matched_last python assumed.hashes stored
    assumed.ranks discerns (stated_of_latest last) matched
  obtain ⟨key, rfl, before⟩ := latest_rekeyed (fun id => (pointIds id).getD "") there
  obtain rfl := assumed.questions org_id _ _ found entry before last same
  rw [before] at last
  obtain rfl := Option.some.inj last
  exact ⟨there, answer⟩

variable (pointIds) in
theorem latest_placed (last : latest faq_id (journal org_id requests) = some entry) :
    ∃ key other, (pointIds key).getD "" = (pointIds faq_id).getD "" ∧
      latest key (journal org_id requests) = some other ∧
      latest ((pointIds faq_id).getD "") (placed pointIds (journal org_id requests)) =
        some other := by
  have among := List.mem_map_of_mem (f := fun entry => ((pointIds entry.1).getD "", entry.2))
    (mem_of_latest last)
  obtain ⟨other, there⟩ := exists_latest among
  obtain ⟨key, same, before⟩ := latest_rekeyed (fun id => (pointIds id).getD "") there
  exact ⟨key, other, same, before, there⟩

theorem accepted_of_latest (accepted : ∀ request ∈ requests, Accepted pointIds request)
    (last : latest faq_id (journal org_id requests) = some entry) : (pointIds faq_id).isSome := by
  obtain ⟨request, among, inside⟩ := List.mem_flatMap.mp (mem_of_latest last)
  obtain ⟨entry', own, same⟩ := List.mem_map.mp inside
  cases same
  exact accepted request (List.mem_filter.mp among).1 entry own

theorem Assumed.alone (assumed : Assumed services engine similarity start requests)
    (stored : Stored pointIds services (Stated requests) start requests final) {one other : String}
    {entry' : FAQEntry} (lasts : latest one (journal org_id requests) = some entry)
    (lasts' : latest other (journal org_id requests) = some entry')
    (same : pointIds one = pointIds other)
    (matched : (FAQMatcher.find services engine python org_id entry.question final).matched = true)
    (matched' :
      (FAQMatcher.find services engine python org_id entry'.question final).matched = true) :
    one = other := by
  obtain ⟨here, -⟩ := assumed.matched_latest python stored lasts matched
  obtain ⟨there, -⟩ := assumed.matched_latest python stored lasts' matched'
  rw [same, there] at here
  obtain rfl := Option.some.inj here
  exact assumed.questions org_id one other entry' entry' lasts lasts' rfl

/-- What is stored for a question is answered exactly if the ids are fit for the store. -/
theorem faqs_round_trip_iff (pointIds : String → Option String) (services : IndexServices Vector)
    (engine : SearchEngine Vector) (python : Python) (similarity : Vector → Vector → Rat)
    (start : IndexState Vector) (requests : List UpsertFAQRequest)
    (assumed : Assumed services engine similarity start requests) :
    RoundTrips pointIds services engine python requests start ↔
      WellIdentified pointIds requests := by
  have stated : ∀ request ∈ requests, ∀ entry ∈ request.faqs, Stated requests entry.question :=
    fun request among entry own => ⟨request, among, entry, own, rfl⟩
  rcases upsertAll_stored pointIds assumed.hashes assumed.begun requests stated with
    ⟨final, run, stored, accepted⟩ | ⟨⟨error, failed⟩, refused⟩
  · constructor
    · rintro ⟨final', run', answered⟩
      obtain rfl := Except.ok.inj (run.symm.trans run')
      refine ⟨accepted, ?_⟩
      intro org_id one other entry entry' lasts lasts' same
      exact assumed.alone python stored lasts lasts' same (answered org_id one entry lasts).1
        (answered org_id other entry' lasts').1
    · rintro ⟨-, injective⟩
      refine ⟨final, run, ?_⟩
      intro org_id faq_id entry last
      obtain ⟨key, found, same, before, there⟩ := latest_placed pointIds last
      obtain ⟨place, placed⟩ := Option.isSome_iff_exists.mp (accepted_of_latest accepted last)
      obtain ⟨place', placed'⟩ := Option.isSome_iff_exists.mp (accepted_of_latest accepted before)
      rw [placed, placed', Option.getD_some, Option.getD_some] at same
      subst same
      obtain rfl := injective org_id key faq_id found entry before last (placed'.trans placed.symm)
      rw [before] at last
      obtain rfl := Option.some.inj last
      have discerns := assumed.discerns
      rw [← stored.version] at discerns
      have matched := matched_of_last python assumed.hashes stored assumed.ranks discerns
        (stated_of_latest before) there rfl
      exact ⟨matched, (assumed.matched_latest python stored before matched).2⟩
  · constructor
    · rintro ⟨final, run, -⟩
      rw [failed] at run
      cases run
    · intro identified
      exact absurd identified.accepted refused

end Trip

end Match

end Stored

end Faq

/-- The digits of a UUID, which may have hyphens. -/
def readUuid (id : String) : Option String :=
  let hyphenated := id.length = 36 ∧ ∀ place ∈ [8, 13, 18, 23], id.toList[place]? = some '-'
  let digits := if hyphenated then id.toList.filter (· ≠ '-') else id.toList
  if digits.length = 32 ∧ digits.all fun digit =>
      digit.isDigit || digit.toLower ∈ ['a', 'b', 'c', 'd', 'e', 'f'] then
    some (String.ofList (digits.map Char.toLower))
  else none

def likeness (one other : String) : ℕ := if one = other then 1 else 0

def sameText (one other : String) : Rat := likeness one other

def sameTextEngine : SearchEngine String where
  nearest vector _ points :=
    ((points.argmax fun point => likeness vector point.2.vector).map fun point =>
      { id := point.1, score := sameText vector point.2.vector
        payload := point.2.payload }).toList
  matchText _ _ := false
  isdigit := Char.isDigit
  float text := .error ⟨"ValueError", text⟩

theorem ranks_sameText : Ranks sameTextEngine sameText := by
  intro vector points
  cases best : points.argmax fun point => likeness vector point.2.vector with
  | none => simpa [sameTextEngine, best] using List.argmax_eq_none.mp best
  | some top =>
    simp only [sameTextEngine, best, Option.map_some, Option.toList_some, List.head?_cons]
    refine ⟨top, List.argmax_mem best, rfl, rfl, fun other among => Nat.cast_le.mpr ?_⟩
    exact List.le_of_mem_argmax (f := fun point => likeness vector point.2.vector) among best

def passwordFaq (faq_id : String) : UpsertFAQRequest :=
  ⟨"org-1", [⟨faq_id, "How do I reset my password?", "With the link on the sign-in page."⟩]⟩

theorem journal_passwordFaq {org_id id : String}
    (last : latest id (journal org_id [passwordFaq faq_id]) = some entry) : id = faq_id := by
  obtain ⟨request, among, inside⟩ := List.mem_flatMap.mp (mem_of_latest last)
  obtain rfl := List.mem_singleton.mp (List.mem_filter.mp among).1
  simp [passwordFaq] at inside
  exact inside.1

theorem passwordFaq_assumed (faq_id : String) :
    Assumed CachedEmbedding.echoServices sameTextEngine sameText {} [passwordFaq faq_id] where
  store := rfl
  embedding := rfl
  noFaqs := by
    intro org_id points there
    cases there
  hashes := by
    rintro one other ⟨request, among, entry, own, rfl⟩ ⟨request', among', entry', own', rfl⟩ -
    simp [passwordFaq] at among among'
    subst among among'
    simp at own own'
    rw [own, own']
  cache := by
    intro text vector ends _ found
    cases found
  ranks := ranks_sameText
  discerns := {
    same := fun question _ => Nat.cast_eq_one.mpr (if_pos rfl)
    other := by
      intro one other _ _ differ
      have apart : sameText one other = 0 := Nat.cast_eq_zero.mpr (if_neg differ)
      change sameText one other < FAQMatcher.faqSimilarityThreshold
      rw [apart]
      norm_num [FAQMatcher.faqSimilarityThreshold] }
  questions := by
    intro org_id one other entry entry' lasts lasts' _
    rw [journal_passwordFaq lasts, journal_passwordFaq lasts']

theorem identified_faq_answered :
    RoundTrips readUuid CachedEmbedding.echoServices sameTextEngine (Python.reading .none)
      [passwordFaq "7c9e6679-7425-40de-944b-e07fc1f90ae7"] {} := by
  refine (faqs_round_trip_iff readUuid CachedEmbedding.echoServices sameTextEngine
    (Python.reading .none) sameText {} _ (passwordFaq_assumed _)).mpr ⟨?_, ?_⟩
  · intro request among entry own
    obtain rfl := List.mem_singleton.mp among
    obtain rfl := List.mem_singleton.mp own
    decide +kernel
  · intro org_id one other entry entry' lasts lasts' _
    rw [journal_passwordFaq lasts, journal_passwordFaq lasts']

/-- An id as the requests describe it is not accepted. -/
theorem described_id_refused :
    Assumed CachedEmbedding.echoServices sameTextEngine sameText {}
        [passwordFaq "faq_reset_password"] ∧
      ¬RoundTrips readUuid CachedEmbedding.echoServices sameTextEngine (Python.reading .none)
        [passwordFaq "faq_reset_password"] {} := by
  refine ⟨passwordFaq_assumed _, ?_⟩
  rintro ⟨final, run, -⟩
  have refused : (DocumentService.upsertAll readUuid CachedEmbedding.echoServices
      [passwordFaq "faq_reset_password"] {}).toOption.isSome = false := by decide +kernel
  rw [run] at refused
  cases refused

end HelpForge.Chatbot
