import HelpForge.Chatbot.Vectors.Reindexing

set_option autoImplicit false

namespace HelpForge.Chatbot

open Lib QdrantVectorStore

inductive Answer where
  | given
  | refused
  | lost
  deriving DecidableEq, Repr

/-- How the requests of one ingestion end, in their order. -/
structure Weather where
  delete : Answer := .given
  readable : Bool := true
  embeds : Bool := true
  writable : Bool := true
  upsert : Answer := .given
  deriving DecidableEq, Repr

section Reingestion

variable {Vector : Type} (services : IndexServices Vector)

def requested (answer : Answer)
    (operation : IndexState Vector → Except PyError (Unit × IndexState Vector))
    (state : IndexState Vector) : Except PyError Unit × IndexState Vector :=
  match operation { state with storeUp := answer != .refused } with
  | .error error => (.error error, state)
  | .ok (_, reached) => (if answer = .lost then .error unreachable else .ok (), reached)

def Embedder.cacheDown : PyError := ⟨"ConnectionError", "Error 111 connecting to redis:6379."⟩

def Embedder.embedUnder (weather : Weather) (values : List Value) (state : IndexState Vector) :
    Except PyError (List Vector) × IndexState Vector :=
  -- The cache is read for each text, and written to for those that are not in it.
  match values.mapM textOf with
  | .error error => (.error error, state)
  | .ok texts =>
    if !texts.isEmpty && !weather.readable then (.error cacheDown, state)
    else if (texts.any fun text => (cached services state text).isNone) && weather.embeds &&
        !weather.writable then (.error cacheDown, state)
    else
      match embedMany services values { state with embeddingUp := weather.embeds } with
      | .error error => (.error error, state)
      | .ok (vectors, reached) => (.ok vectors, reached)

/-- `process_document` from where the content has been cut. -/
def ingest (weather : Weather) (request : ProcessDocumentRequest) (chunks : List (Dict Value))
    (state : IndexState Vector) : Except PyError ProcessDocumentResponse × IndexState Vector :=
  match requested weather.delete (deleteByDocument request.org_id request.document_id) state with
  | (.error error, deleted) => (.error error, deleted)
  | (.ok _, deleted) =>
    match Embedder.embedUnder services weather
        (chunks.map fun chunk => (chunk.lookup "text").getD .none) deleted with
    | (.error error, embedded) => (.error error, embedded)
    | (.ok vectors, embedded) =>
      match requested weather.upsert (upsert services request.org_id vectors chunks none)
          embedded with
      | (.error error, stored) => (.error error, stored)
      | (.ok _, stored) =>
        let response : ProcessDocumentResponse :=
          { document_id := request.document_id
            chunks_created := chunks.length
            status := "success" }
        (.ok response, stored)

def processUnder (weather : Weather) (passes : Nat) (request : ProcessDocumentRequest)
    (state : IndexState Vector) :
    Option (Except PyError ProcessDocumentResponse × IndexState Vector) :=
  (documentChunks passes request state.embedding_version).map fun chunks =>
    ingest services weather request chunks state

def Embeds (weather : Weather) (chunks : List (Dict Value)) (state : IndexState Vector) : Prop :=
  -- Every text is one, and can be embedded from the cache or with what is to be had.
  ∃ texts : List String,
    (chunks.map fun chunk => (chunk.lookup "text").getD .none) = texts.map .str ∧
      (texts = [] ∨ weather.readable = true) ∧
      ∀ text ∈ texts, (Embedder.cached services state text).isSome = true ∨
        (weather.embeds = true ∧ weather.writable = true)

variable {services} {state : IndexState Vector}

theorem requested_up {operation : IndexState Vector → Except PyError (Unit × IndexState Vector)}
    (store : state.storeUp = true) :
    requested .given operation state =
      match operation state with
      | .error error => (.error error, state)
      | .ok (_, reached) => (.ok (), reached) := by
  have same : { state with storeUp := true } = state := by
    cases state
    cases store
    rfl
  have up : (Answer.given != Answer.refused) = true := rfl
  unfold requested
  simp only [up, same]
  rcases operation state with error | ⟨value, reached⟩ <;> rfl

theorem embedUnder_up {values : List Value} (embedding : state.embeddingUp = true) :
    Embedder.embedUnder services {} values state =
      match Embedder.embedMany services values state with
      | .error error => (.error error, state)
      | .ok (vectors, reached) => (.ok vectors, reached) := by
  have same : { state with embeddingUp := true } = state := by
    cases state
    cases embedding
    rfl
  unfold Embedder.embedUnder
  simp only [Bool.not_true, Bool.and_false, same]
  cases read : values.mapM Embedder.textOf with
  | error error => simp [Embedder.embedMany, read, Bind.bind, Except.bind]
  | ok texts => rfl

theorem ingest_calm (request : ProcessDocumentRequest) (chunks : List (Dict Value))
    (store : state.storeUp = true) (embedding : state.embeddingUp = true) :
    IndexCall.complete services 3 (.process request chunks) state =
      (.finished ((ingest services {} request chunks state).1.map .processed),
        (ingest services {} request chunks state).2) := by
  -- Where nothing fails, the ingestion is that of the steps.
  unfold ingest
  rw [requested_up store]
  rcases deleted : deleteByDocument request.org_id request.document_id state with
    error | ⟨value, reached⟩
  · simp [IndexCall.complete, IndexCall.advance, IndexCall.proceed, deleted, Except.map]
  · have kept := deleteByDocument_ok deleted
    have storeUp : reached.storeUp = true := kept ▸ store
    have embeddingUp : reached.embeddingUp = true := kept ▸ embedding
    simp only [embedUnder_up embeddingUp]
    rcases embedded : Embedder.embedMany services
        (chunks.map fun chunk => (chunk.lookup "text").getD .none) reached with
      error | ⟨vectors, after⟩
    · simp [IndexCall.complete, IndexCall.advance, IndexCall.proceed, deleted, embedded, Except.map]
    · have up : after.storeUp = true := by
        obtain ⟨texts, -, -, rfl | rfl⟩ := Embedder.embedMany_ok embedded
        · exact storeUp
        · exact storeUp
      simp only [embedded, requested_up up]
      rcases stored : upsert services request.org_id vectors chunks none after with
        error | ⟨value, final⟩
      · simp [IndexCall.complete, IndexCall.advance, IndexCall.proceed, deleted, embedded, stored,
          Except.map]
      · simp [IndexCall.complete, IndexCall.advance, IndexCall.proceed, deleted, embedded, stored,
          Except.map]

def IndexState.pointsOf (org_id document_id : String) (state : IndexState Vector) :
    List (String × StoredPoint Vector) :=
  (state.points org_id).filter fun point => ofDocument document_id point.2.payload

theorem embedMany_answers_iff (texts : List String) :
    (∃ outcome, Embedder.embedMany services (texts.map .str) state = .ok outcome) ↔
      ∀ text ∈ texts, (Embedder.cached services state text).isSome = true ∨
        state.embeddingUp = true := by
  -- The model is asked if a text is not in the cache.
  have all_cached : ((texts.filter fun text =>
      (Embedder.cached services state text).isNone).isEmpty = true) ↔
        ∀ text ∈ texts, (Embedder.cached services state text).isSome = true := by
    simp [List.isEmpty_iff, List.filter_eq_nil_iff, Option.isSome_iff_ne_none]
  unfold Embedder.embedMany
  rw [Embedder.mapM_textOf]
  by_cases cached : ∀ text ∈ texts, (Embedder.cached services state text).isSome = true
  · have empty := all_cached.mpr cached
    exact iff_of_true ⟨_, if_pos empty⟩ fun text member => .inl (cached text member)
  · have filled := mt all_cached.mp cached
    by_cases up : state.embeddingUp = true
    · exact iff_of_true ⟨_, (if_neg filled).trans (if_pos up)⟩ fun _ _ => .inr up
    · constructor
      · rintro ⟨outcome, done⟩
        have refused := done.symm.trans ((if_neg filled).trans (if_neg up))
        cases refused
      · intro each
        exact absurd (fun text member => (each text member).resolve_right up) cached

variable (services) in
theorem embedUnder_cases (weather : Weather) (chunks : List (Dict Value))
    (state : IndexState Vector) :
    ∃ result reached, Embedder.embedUnder services weather
        (chunks.map fun chunk => (chunk.lookup "text").getD .none) state = (result, reached) ∧
      reached.collections = state.collections ∧ reached.minted = state.minted ∧
      ((∃ vectors, result = .ok vectors ∧ vectors.length = chunks.length ∧
          Embeds services weather chunks state) ∨
        ((∃ error, result = .error error) ∧ ¬Embeds services weather chunks state)) := by
  -- An embedding that succeeds has a vector for each text, and any leaves the points alone.
  have texts_of : ∀ texts : List String,
      (chunks.map fun chunk => (chunk.lookup "text").getD .none) = texts.map .str →
        texts.length = chunks.length := by
    intro texts same
    simpa using (congrArg List.length same).symm
  unfold Embedder.embedUnder
  cases read : (chunks.map fun chunk => (chunk.lookup "text").getD .none).mapM
      Embedder.textOf with
  | error error =>
    refine ⟨_, _, rfl, rfl, rfl, .inr ⟨⟨error, rfl⟩, ?_⟩⟩
    rintro ⟨texts, same, -⟩
    rw [same, Embedder.mapM_textOf] at read
    cases read
  | ok texts =>
    have same := Embedder.mapM_textOf_ok read
    have named : ∀ others : List String,
        (chunks.map fun chunk => (chunk.lookup "text").getD .none) = others.map .str →
          others = texts := by
      intro others equal
      rw [equal, Embedder.mapM_textOf] at read
      exact Except.ok.inj read
    have counted := texts_of texts same
    simp only
    split_ifs with unread unwritten
    · refine ⟨_, _, rfl, rfl, rfl, .inr ⟨⟨_, rfl⟩, ?_⟩⟩
      rintro ⟨others, equal, readable, -⟩
      rw [named others equal] at readable
      rw [Bool.and_eq_true, Bool.not_eq_true', Bool.not_eq_true', List.isEmpty_eq_false_iff]
        at unread
      rcases readable with none | up
      · exact unread.1 none
      · rw [unread.2] at up
        cases up
    · refine ⟨_, _, rfl, rfl, rfl, .inr ⟨⟨_, rfl⟩, ?_⟩⟩
      rintro ⟨others, equal, -, each⟩
      rw [named others equal] at each
      rw [Bool.and_eq_true, Bool.and_eq_true, Bool.not_eq_true', List.any_eq_true] at unwritten
      obtain ⟨⟨⟨text, member, uncached⟩, -⟩, unwritable⟩ := unwritten
      rcases each text member with known | ⟨-, writable⟩
      · rw [Option.isSome_iff_ne_none] at known
        exact known (Option.isNone_iff_eq_none.mp uncached)
      · rw [unwritable] at writable
        cases writable
    · have readable : texts = [] ∨ weather.readable = true := by
        simpa [or_iff_not_imp_left] using unread
      have answers := @embedMany_answers_iff _ services
        { state with embeddingUp := weather.embeds } texts
      rw [← same] at answers
      rcases embedded : Embedder.embedMany services
          (chunks.map fun chunk => (chunk.lookup "text").getD .none)
          { state with embeddingUp := weather.embeds } with error | ⟨vectors, reached⟩
      · simp only [embedded]
        refine ⟨_, _, rfl, rfl, rfl, .inr ⟨⟨_, rfl⟩, ?_⟩⟩
        rintro ⟨others, equal, -, each⟩
        rw [named others equal] at each
        have none : ¬∃ outcome, (.error error : Except PyError (List Vector × IndexState Vector)) =
            .ok outcome := by
          rintro ⟨outcome, impossible⟩
          cases impossible
        rw [← embedded, answers] at none
        exact none fun text member => (each text member).imp_right And.left
      · obtain ⟨length, collections, minted⟩ := Embedder.embedMany_points embedded
        simp only [embedded]
        refine ⟨_, _, rfl, collections, minted, .inl ⟨vectors, rfl, ?_, texts, same, readable, ?_⟩⟩
        · rwa [List.length_map] at length
        · intro text member
          rcases answers.mp ⟨_, embedded⟩ text member with known | up
          · exact .inl known
          · by_cases writable : weather.writable = true
            · exact .inr ⟨up, writable⟩
            · left
              rw [← Option.not_isNone, Bool.not_eq_true']
              rw [Bool.eq_false_iff]
              intro uncached
              apply unwritten
              rw [Bool.and_eq_true, Bool.and_eq_true, Bool.not_eq_true', List.any_eq_true]
              exact ⟨⟨⟨text, member, uncached⟩, up⟩, by simpa using writable⟩

variable {request : ProcessDocumentRequest}

theorem delete_refused :
    requested .refused (deleteByDocument request.org_id request.document_id) state =
      (.error unreachable, state) := rfl

theorem delete_done {answer : Answer} (done : answer ≠ .refused)
    (indexed : state.pointsOf request.org_id request.document_id ≠ []) :
    ∃ deleted, requested answer (deleteByDocument request.org_id request.document_id) state =
        (if answer = .lost then .error unreachable else .ok (), deleted) ∧
      deleted.pointsOf request.org_id request.document_id = [] ∧
      (∀ point ∈ deleted.points request.org_id, point ∈ state.points request.org_id) ∧
      deleted.cache = state.cache ∧ deleted.now = state.now ∧ deleted.minted = state.minted := by
  -- What the deletion leaves, whether or not anybody hears of it.
  have up : (answer != .refused) = true := by simpa using done
  cases there : collection request.org_id state with
  | none => simp [IndexState.pointsOf, IndexState.points, there] at indexed
  | some points =>
    have run : deleteByDocument request.org_id request.document_id
        { state with storeUp := true } = .ok ((), setCollection request.org_id
          (points.filter fun point => !ofDocument request.document_id point.2.payload)
          { state with storeUp := true }) := by
      unfold deleteByDocument onCollection
      rw [show collection request.org_id { state with storeUp := true } = some points from there]
      rfl
    have known : state.points request.org_id = points := by simp [IndexState.points, there]
    unfold requested
    simp only [up, run]
    refine ⟨_, rfl, ?_, ?_, rfl, rfl, rfl⟩
    · simp [IndexState.pointsOf, List.filter_filter]
    · intro point member
      rw [points_setCollection] at member
      rw [known]
      exact List.mem_of_mem_filter member

theorem embeds_congr {weather : Weather} {chunks : List (Dict Value)} {other : IndexState Vector}
    (cache : other.cache = state.cache) (now : other.now = state.now) :
    Embeds services weather chunks other ↔ Embeds services weather chunks state := by
  unfold Embeds Embedder.cached
  rw [cache, now]

variable (services request) in
theorem upsert_done (answer : Answer) {vectors : List Vector} {chunks : List (Dict Value)}
    (paired : vectors.length = chunks.length)
    (fresh : state.Fresh services request.org_id) :
    ∃ stored, requested answer (upsert services request.org_id vectors chunks none) state =
        (if answer = .given then .ok () else .error unreachable, stored) ∧
      ∀ point ∈ stored.points request.org_id, point ∈ state.points request.org_id ∨
        ∃ later, state.minted ≤ later ∧ point.1 = services.uuid later := by
  -- The chunks are stored, whether or not anybody hears of it, or none of them is.
  by_cases refused : answer = .refused
  · subst refused
    exact ⟨state, rfl, fun _ member => .inl member⟩
  · have up : (answer != .refused) = true := by simpa using refused
    have ready : ({ state with storeUp := true } : IndexState Vector).Fresh services
        request.org_id := ⟨fresh.distinct, fresh.unused⟩
    rcases run : upsert services request.org_id vectors chunks none { state with storeUp := true }
      with error | ⟨value, stored⟩
    · cases run
    · obtain ⟨added, points, -, ids, -⟩ := upsert_new services ready paired run
      refine ⟨stored, ?_, ?_⟩
      · unfold requested
        simp only [up, run]
        cases answer with
        | given => rfl
        | refused => exact absurd rfl refused
        | lost => rfl
      · intro point member
        rw [points] at member
        rcases List.mem_append.mp member with old | new
        · exact .inl old
        · have among := List.mem_map_of_mem (f := Prod.fst) new
          rw [ids] at among
          obtain ⟨index, -, same⟩ := List.mem_map.mp among
          exact .inr ⟨_, Nat.le_add_right .., same.symm⟩

/-- If an ingestion fails then what is stored of the document is stored afterwards, exactly if its
deletion is refused or nothing fails at all. -/
theorem failed_ingestion_keeps_iff (weather : Weather) (passes : Nat)
    (request : ProcessDocumentRequest) (chunks : List (Dict Value))
    (state reached : IndexState Vector) (result : Except PyError ProcessDocumentResponse)
    (fresh : state.Fresh services request.org_id)
    (indexed : state.pointsOf request.org_id request.document_id ≠ [])
    (cut : documentChunks passes request state.embedding_version = some chunks)
    (returns : processUnder services weather passes request state = some (result, reached)) :
    ((∃ error, result = .error error) →
        ∀ point ∈ state.pointsOf request.org_id request.document_id,
          point ∈ reached.pointsOf request.org_id request.document_id) ↔
      weather.delete = .refused ∨ (weather.delete = .given ∧
        Embeds services weather chunks state ∧ weather.upsert = .given) := by
  have run : ingest services weather request chunks state = (result, reached) := by
    simpa [processUnder, cut] using returns
  obtain ⟨old, stored_before⟩ := List.exists_mem_of_ne_nil _ indexed
  by_cases refused : weather.delete = .refused
  · have same : reached = state := by
      simp only [ingest, refused, delete_refused, Prod.mk.injEq] at run
      exact run.2.symm
    exact iff_of_true (fun _ point member => same ▸ member) (.inl refused)
  · obtain ⟨deleted, deletion, gone, kept, cache, now, minted⟩ :=
      delete_done refused indexed
    -- Nothing of the document comes back under its old id.
    have lost : ∀ other : IndexState Vector,
        (∀ point ∈ other.points request.org_id, point ∈ deleted.points request.org_id ∨
          ∃ later, state.minted ≤ later ∧ point.1 = services.uuid later) →
        old ∉ other.pointsOf request.org_id request.document_id := by
      intro other from_where there
      obtain ⟨member, of_document⟩ := List.mem_filter.mp there
      rcases from_where old member with still | ⟨later, past, named⟩
      · have again : old ∈ deleted.pointsOf request.org_id request.document_id :=
          List.mem_filter.mpr ⟨still, of_document⟩
        rw [gone] at again
        cases again
      · apply fresh.unused later past
        rw [← named]
        exact List.mem_map_of_mem (List.mem_of_mem_filter stored_before)
    have unanswered : (∃ error, result = .error error) →
        (∀ point ∈ reached.points request.org_id, point ∈ deleted.points request.org_id ∨
          ∃ later, state.minted ≤ later ∧ point.1 = services.uuid later) →
        ¬((∃ error, result = .error error) →
          ∀ point ∈ state.pointsOf request.org_id request.document_id,
            point ∈ reached.pointsOf request.org_id request.document_id) :=
      fun failed from_where keeps => lost reached from_where (keeps failed old stored_before)
    have deletedFresh : deleted.Fresh services request.org_id := by
      apply fresh_of_points services fresh minted
      intro id among
      obtain ⟨point, member, rfl⟩ := List.mem_map.mp among
      exact List.mem_map_of_mem (kept point member)
    unfold ingest at run
    rw [deletion] at run
    cases answer : weather.delete with
    | refused => exact absurd answer refused
    | lost =>
      rw [answer] at run
      cases run
      apply iff_of_false (unanswered ⟨_, rfl⟩ fun _ member => .inl member)
      simp
    | given =>
      obtain ⟨embedding, embedded, embeds, collections, still, outcome⟩ :=
        embedUnder_cases services weather chunks deleted
      have points : embedded.points request.org_id = deleted.points request.org_id := by
        rw [IndexState.points, collection, collections]
        rfl
      rw [answer] at run
      simp only [reduceCtorEq, if_false] at run
      rw [embeds] at run
      rw [embeds_congr cache now] at outcome
      rcases outcome with ⟨vectors, rfl, paired, all⟩ | ⟨⟨error, rfl⟩, broken⟩
      · obtain ⟨stored, upserted, from_where⟩ := upsert_done services request weather.upsert paired
          (fresh_of_collections services deletedFresh still collections)
        simp only [upserted] at run
        by_cases last : weather.upsert = .given
        · rw [if_pos last] at run
          cases run
          exact iff_of_true (by rintro ⟨_, ⟨⟩⟩) (.inr ⟨rfl, all, last⟩)
        · rw [if_neg last] at run
          cases run
          refine iff_of_false (unanswered ⟨_, rfl⟩ ?_) (by simp [last])
          intro point member
          rw [← points, ← minted, ← still]
          exact from_where point member
      · cases run
        refine iff_of_false (unanswered ⟨_, rfl⟩ ?_) (by simp [broken])
        intro point member
        exact .inl (points ▸ member)

end Reingestion

def indexedPage : IndexState Unit where
  collections :=
    [("org_acme", (pageChunks "Open until six.").map fun chunk => ("page-0", ⟨(), chunk⟩))]

theorem indexedPage_fresh : indexedPage.Fresh plainServices "acme" where
  distinct := plainServices_distinct
  unused later _ among := by
    have same : plainServices.uuid later = "page-0" := List.mem_singleton.mp among
    have letters := congrArg String.toList same
    have all : ∀ char ∈ List.replicate later 'a', char = 'a' := fun _ => List.eq_of_mem_replicate
    rw [plainServices, String.toList_ofList] at letters
    rw [letters] at all
    exact absurd (all 'p' (by decide)) (by decide)

def updatePage (weather : Weather) :
    Option (Except PyError ProcessDocumentResponse × IndexState Unit) :=
  processUnder plainServices weather 0 (pageVersion "Open until eight.") indexedPage

theorem page_kept : ∃ result reached, updatePage { delete := .refused } = some (result, reached) ∧
    (∃ error, result = .error error) ∧ indexedPage.pointsOf "acme" "page" ≠ [] ∧
      ∀ point ∈ indexedPage.pointsOf "acme" "page", point ∈ reached.pointsOf "acme" "page" := by
  have kept := (failed_ingestion_keeps_iff { delete := .refused } 0
    (pageVersion "Open until eight.") (pageChunks "Open until eight.") indexedPage indexedPage
    (.error unreachable) indexedPage_fresh (by decide +kernel) rfl rfl).mpr (.inl rfl)
  exact ⟨_, _, rfl, ⟨_, rfl⟩, by decide +kernel, kept ⟨_, rfl⟩⟩

/-- The embedding service does not answer once the old version has been deleted. -/
theorem page_lost :
    ¬∀ weather result reached, updatePage weather = some (result, reached) →
      (∃ error, result = .error error) →
        ∀ point ∈ indexedPage.pointsOf "acme" "page", point ∈ reached.pointsOf "acme" "page" := by
  intro sound
  have kept := sound { embeds := false } _ _ rfl ⟨_, rfl⟩ _ (List.mem_singleton_self _)
  cases kept

end HelpForge.Chatbot
