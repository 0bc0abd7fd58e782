import HelpForge.Chatbot.Vectors.Effects

set_option autoImplicit false

namespace HelpForge.Chatbot

open Lib

inductive Concerns {Vector : Type} (org_id document_id : String) : IndexCall Vector → Prop where
  | ingest (request : ProcessDocumentRequest) (embedding_version : String) (passes : Nat)
      (chunks : List (Dict Value)) (org : request.org_id = org_id)
      (document : request.document_id = document_id)
      (cut : documentChunks passes request embedding_version = some chunks) :
      Concerns org_id document_id (.process request chunks)
  | delete (request : DeleteScrapedDocumentsRequest) (org : request.org_id = org_id)
      (named : document_id ∈ request.document_ids) :
      Concerns org_id document_id (.deleteScraped request)

abbrev DocumentJob (Vector : Type) (org_id document_id : String) :=
  { call : IndexCall Vector // Concerns org_id document_id call }

section Reindexing

variable {Vector κ : Type} (services : IndexServices Vector) {org_id document_id : String}

def IndexState.chunksOf (org_id document_id : String) (state : IndexState Vector) :
    List (Dict Value) :=
  ((state.points org_id).map fun point => point.2.payload).filter (ofDocument document_id)

abbrev IndexPool (κ Vector : Type) := Pool κ (IndexState Vector) (IndexCall Vector)

/-- The calls of the given jobs. Meanwhile time passes, and services come and go. -/
def reindexing (jobs : κ → DocumentJob Vector org_id document_id) :
    Pool.System κ (IndexState Vector) (IndexCall Vector) where
  advance := IndexCall.advance services
  begins := fun _ call process => process = (jobs call).1
  environment := fun state reached =>
    reached.collections = state.collections ∧ reached.minted = state.minted

def Vacant (org_id document_id : String) (pool : IndexPool κ Vector) (_ : κ)
    (process : IndexCall Vector) : Prop :=
  -- An ingestion that has chunks of the document to store finds none of it.
  ∀ request chunks vectors, process = .store request chunks vectors →
    chunks.any (ofDocument document_id) = true → pool.state.chunksOf org_id document_id = []

def OneVersion (jobs : κ → DocumentJob Vector org_id document_id) (state : IndexState Vector) :
    Prop :=
  -- The document has no points, or it has the chunks of one of the contents, each once.
  state.chunksOf org_id document_id = [] ∨
    ∃ call request chunks, (jobs call).1 = .process request chunks ∧
      state.chunksOf org_id document_id = chunks

inductive Stage (job : IndexCall Vector) : IndexCall Vector → Prop where
  | begun : Stage job job
  | embed (request : ProcessDocumentRequest) (chunks : List (Dict Value))
      (ingests : job = .process request chunks) : Stage job (.embed request chunks)
  | store (request : ProcessDocumentRequest) (chunks : List (Dict Value)) (vectors : List Vector)
      (ingests : job = .process request chunks) (paired : vectors.length = chunks.length) :
      Stage job (.store request chunks vectors)
  | finished (result : Except PyError IndexReply) : Stage job (.finished result)

section Fresh

variable {state reached : IndexState Vector} (fresh : state.Fresh services org_id)
  (minted : reached.minted = state.minted)

include fresh minted

theorem fresh_of_points (ids : ∀ id ∈ reached.pointIds org_id, id ∈ state.pointIds org_id) :
    reached.Fresh services org_id where
  distinct := fresh.distinct
  unused := fun later past among => fresh.unused later (minted ▸ past) (ids _ among)

theorem fresh_of_collections (same : reached.collections = state.collections) :
    reached.Fresh services org_id := by
  apply fresh_of_points services fresh minted
  intro id among
  rwa [IndexState.pointIds, IndexState.points, QdrantVectorStore.collection, same] at among

end Fresh

theorem chunksOf_collections {state reached : IndexState Vector}
    (same : reached.collections = state.collections) :
    reached.chunksOf org_id document_id = state.chunksOf org_id document_id := by
  rw [IndexState.chunksOf, IndexState.points, QdrantVectorStore.collection, same]
  rfl

theorem kept_points {state : IndexState Vector} (fresh : state.Fresh services org_id)
    (keep : String × StoredPoint Vector → Bool)
    (gone : ∀ point, ofDocument document_id point.2.payload = true → keep point = false) :
    let reached :=
      -- What is kept of the points is fresh, and so is what is kept of their chunks.
      QdrantVectorStore.setCollection org_id ((state.points org_id).filter keep) state
    reached.Fresh services org_id ∧ reached.chunksOf org_id document_id = [] := by
  constructor
  · refine fresh_of_points services fresh (Eq.refl state.minted) ?_
    intro id among
    rw [IndexState.pointIds, QdrantVectorStore.points_setCollection] at among
    obtain ⟨point, kept, rfl⟩ := List.mem_map.mp among
    exact List.mem_map_of_mem (List.mem_of_mem_filter kept)
  · rw [IndexState.chunksOf, QdrantVectorStore.points_setCollection, List.filter_map,
      List.filter_filter, List.map_eq_nil_iff, List.filter_eq_nil_iff]
    intro point _ both
    obtain ⟨among, kept⟩ := (Bool.and_eq_true ..).mp both
    rw [gone point among] at kept
    cases kept

variable {job : DocumentJob Vector org_id document_id}

theorem uniform_chunks {request : ProcessDocumentRequest} {chunks : List (Dict Value)}
    (ingests : job.1 = .process request chunks) :
    chunks.filter (ofDocument document_id) = [] ∨
      chunks.filter (ofDocument document_id) = chunks := by
  obtain ⟨call, concerns⟩ := job
  cases concerns with
  | delete request org named => cases ingests
  | ingest request' embedding_version passes chunks' org document cut =>
    cases ingests
    have alike := chunks_alike passes request embedding_version chunks cut "document_id"
      (by decide)
    by_cases within : ofDocument document_id
        (Dict.merge [] (baseMetadata request embedding_version)) = true
    · right
      apply List.filter_eq_self.mpr
      intro chunk member
      rwa [ofDocument, alike chunk member]
    · left
      apply List.filter_eq_nil_iff.mpr
      intro chunk member
      rwa [ofDocument, alike chunk member]

theorem Stage.advance {process next : IndexCall Vector} {state reached : IndexState Vector}
    (stage : Stage job.1 process) (fresh : state.Fresh services org_id)
    (advanced : process.advance services state = some (next, reached)) :
    Stage job.1 next ∧ reached.Fresh services org_id ∧
      (reached.chunksOf org_id document_id = state.chunksOf org_id document_id ∨
        reached.chunksOf org_id document_id = [] ∨
        ∃ request chunks vectors, process = .store request chunks vectors ∧
          job.1 = .process request chunks ∧
          reached.chunksOf org_id document_id =
            state.chunksOf org_id document_id ++ chunks.filter (ofDocument document_id)) := by
  -- What one step does to the chunks of the document.
  obtain ⟨call, concerns⟩ := job
  have org {request : ProcessDocumentRequest} {chunks : List (Dict Value)}
      (ingests : call = .process request chunks) :
      request.org_id = org_id ∧ request.document_id = document_id := by
    cases concerns with
    | ingest request' embedding_version passes chunks' org document cut =>
      cases ingests
      exact ⟨org, document⟩
    | delete request' org named => cases ingests
  cases stage with
  | begun =>
    cases concerns with
    | ingest request embedding_version passes chunks org' document' cut =>
      simp only [IndexCall.advance, Option.some.injEq] at advanced
      rcases done : QdrantVectorStore.deleteByDocument request.org_id request.document_id state with
        error | ⟨value, after⟩
      · rw [done] at advanced
        cases advanced
        exact ⟨.finished _, fresh, .inl rfl⟩
      · rw [done] at advanced
        cases advanced
        rw [org', document'] at done
        obtain rfl := QdrantVectorStore.deleteByDocument_ok done
        have kept := @kept_points _ services org_id document_id state fresh
          (fun point => !ofDocument document_id point.2.payload) (by simp)
        exact ⟨.embed request chunks rfl, kept.1, .inr (.inl kept.2)⟩
    | delete request org' named =>
      simp only [IndexCall.advance, Option.some.injEq, Prod.mk.injEq] at advanced
      obtain ⟨rfl, rfl⟩ := advanced
      rw [org']
      refine ⟨.finished _, ?_⟩
      rcases @QdrantVectorStore.deleteByDocuments_cases _ org_id state
        request.document_ids with same | same
      · rw [same]
        exact ⟨fresh, .inl rfl⟩
      · rw [same]
        have kept := @kept_points _ services org_id document_id state fresh
          (fun point => !request.document_ids.any fun id => ofDocument id point.2.payload) (by
            intro point among
            rw [Bool.not_eq_false', List.any_eq_true]
            exact ⟨document_id, named, among⟩)
        exact ⟨kept.1, .inr (.inl kept.2)⟩
  | embed request chunks ingests =>
    simp only [IndexCall.advance, Option.some.injEq] at advanced
    rcases done : Embedder.embedMany services
      (chunks.map fun chunk => (chunk.lookup "text").getD .none) state with
      error | ⟨vectors, after⟩
    · rw [done] at advanced
      cases advanced
      exact ⟨.finished _, fresh, .inl rfl⟩
    · rw [done] at advanced
      cases advanced
      obtain ⟨counted, same, minted⟩ := Embedder.embedMany_points done
      refine ⟨.store request chunks vectors ingests ?_,
        fresh_of_collections services fresh minted same, .inl (chunksOf_collections same)⟩
      rwa [List.length_map] at counted
  | store request chunks vectors ingests paired =>
    simp only [IndexCall.advance, Option.some.injEq] at advanced
    rw [(org ingests).1] at advanced
    rcases done : QdrantVectorStore.upsert services org_id vectors chunks none state with
      error | ⟨value, after⟩
    · rw [done] at advanced
      cases advanced
      exact ⟨.finished _, fresh, .inl rfl⟩
    · rw [done] at advanced
      cases advanced
      obtain ⟨added, points, payloads, -, fresh'⟩ :=
        QdrantVectorStore.upsert_new services fresh paired done
      refine ⟨.finished _, fresh', .inr (.inr ⟨request, chunks, vectors, rfl, ingests, ?_⟩)⟩
      rw [IndexState.chunksOf, points, List.map_append, List.filter_append, payloads]
      rfl
  | finished result => cases advanced

variable [DecidableEq κ] {jobs : κ → DocumentJob Vector org_id document_id}

structure Reindexed (jobs : κ → DocumentJob Vector org_id document_id) (pool : IndexPool κ Vector) :
    Prop where
  fresh : pool.state.Fresh services org_id
  whole : OneVersion jobs pool.state
  stage : ∀ call process, pool.calls call = some process → Stage (jobs call).1 process

theorem Reindexed.step {pool reached : IndexPool κ Vector} (reindexed : Reindexed services jobs pool)
    (stepped : Pool.Step (reindexing services jobs) (Vacant org_id document_id) pool reached) :
    Reindexed services jobs reached := by
  cases stepped with
  | start call process unused begun =>
    refine ⟨reindexed.fresh, reindexed.whole, Pool.put_forall _ ?_ reindexed.stage⟩
    rw [begun]
    exact .begun
  | statement call process next state running permitted advanced =>
    obtain ⟨stage, fresh, effect⟩ :=
      (reindexed.stage call process running).advance services reindexed.fresh advanced
    refine ⟨fresh, ?_, ?_⟩
    · rcases effect with same | none | ⟨request, chunks, vectors, rfl, ingests, added⟩
      · rw [OneVersion, same]
        exact reindexed.whole
      · exact .inl none
      · rcases uniform_chunks ingests with foreign | own
        · rw [foreign, List.append_nil] at added
          rw [OneVersion, added]
          exact reindexed.whole
        · rw [own] at added
          by_cases among : chunks.any (ofDocument document_id) = true
          · have vacant := permitted request chunks vectors rfl among
            exact .inr ⟨call, request, chunks, ingests, by rw [added, vacant, List.nil_append]⟩
          · have none : chunks = [] := by
              rw [← own, List.filter_eq_nil_iff]
              simpa using among
            rw [OneVersion, added, none, List.append_nil]
            exact reindexed.whole
    · exact Pool.put_forall _ stage reindexed.stage
  | outside state moved =>
    refine ⟨fresh_of_collections services reindexed.fresh moved.2 moved.1, ?_, reindexed.stage⟩
    rw [OneVersion, chunksOf_collections moved.1]
    exact reindexed.whole

/-- If each ingestion finds the document without points when it stores its chunks, then at no
time do the chunks of two contents stand side by side. -/
theorem reindexing_keeps_one_version (jobs : κ → DocumentJob Vector org_id document_id)
    (state : IndexState Vector) (fresh : state.Fresh services org_id)
    (absent : state.chunksOf org_id document_id = []) (final : IndexPool κ Vector)
    (run : Pool.Run (reindexing services jobs) (Vacant org_id document_id) (Pool.idle state)
      final) : OneVersion jobs final.state := by
  have reindexed : Reindexed services jobs (Pool.idle state) := ⟨fresh, .inl absent, nofun⟩
  exact (run.invariant (fun _ _ reindexed stepped => reindexed.step services stepped) reindexed).whole

end Reindexing

/-- Ids of growing length, and a model that gives every text the same vector. -/
def plainServices : IndexServices Unit where
  uuid given := String.ofList (List.replicate given 'a')
  sha256 text := text
  model _ _ := ()

theorem plainServices_distinct : Function.Injective plainServices.uuid := by
  intro one other same
  have lists := congrArg String.toList same
  simpa [plainServices] using congrArg List.length lists

def pageVersion (content : String) : ProcessDocumentRequest where
  org_id := "acme"
  document_id := "page"
  content
  chunk := false

def pageChunks (content : String) : List (Dict Value) :=
  [Dict.merge [("text", .str content), ("chunk_index", .int 0)] (baseMetadata (pageVersion content))]

def pageJobs (first : Bool) : DocumentJob Unit "acme" "page" :=
  let content := if first then "Open until six." else "Open until eight."
  ⟨.process (pageVersion content) (pageChunks content),
    .ingest (pageVersion content) settings.embedding_version 0 (pageChunks content) rfl rfl rfl⟩

def emptyIndex : IndexState Unit where
  collections := [("org_acme", [])]

def playPages (turns : List Bool) : IndexPool Bool Unit :=
  Pool.play (IndexCall.advance plainServices) (fun first => (pageJobs first).1) (turns.map .turn)
    (Pool.idle emptyIndex)

theorem playPages_run (allowed : IndexPool Bool Unit → Bool → IndexCall Unit → Prop)
    (turns : List Bool)
    (permitted : Pool.Permits allowed (IndexCall.advance plainServices)
      (fun first => (pageJobs first).1) (turns.map .turn) (Pool.idle emptyIndex)) :
    Pool.Run (reindexing plainServices pageJobs) allowed (Pool.idle emptyIndex)
      (playPages turns) := by
  apply Pool.play_run (fun _ _ => rfl) _ _ _ permitted
  simp

theorem emptyIndex_fresh : emptyIndex.Fresh plainServices "acme" where
  distinct := plainServices_distinct
  unused _ _ among := by cases among

def oneAfterOther : List Bool := [true, true, true, true, false, false, false, false]

theorem later_version_kept :
    ((playPages oneAfterOther).state.chunksOf "acme" "page").length = 1 ∧
      OneVersion pageJobs (playPages oneAfterOther).state := by
  refine ⟨by decide +kernel, ?_⟩
  apply reindexing_keeps_one_version plainServices pageJobs emptyIndex emptyIndex_fresh rfl
  apply playPages_run
  refine ⟨?_, ?_, ?_, ?_, ?_, ?_, ?_, ?_, trivial⟩ <;>
    rintro process ⟨⟩ request chunks vectors ⟨⟩ _ <;> rfl

/-- Each ingestion deletes the page before the other has stored its own. -/
theorem versions_mixed :
    ¬∀ final, Pool.Run (reindexing plainServices pageJobs) Pool.anyStatement
        (Pool.idle emptyIndex) final → OneVersion pageJobs final.state := by
  intro kept
  have run := playPages_run Pool.anyStatement [true, true, false, false, true, true, false, false]
    (Pool.permits_any ..)
  have both : ((playPages [true, true, false, false, true, true, false, false]).state.chunksOf
      "acme" "page").length = 2 := by decide +kernel
  rcases kept _ run with none | ⟨call, request, chunks, ingests, same⟩
  · rw [none] at both
    cases both
  · rw [same] at both
    cases call <;> cases ingests <;> cases both

end HelpForge.Chatbot
