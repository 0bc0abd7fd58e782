import HelpForge.Chatbot.Vectors.Effects

set_option autoImplicit false

namespace HelpForge.Chatbot

open Lib

namespace Labels

section Labels

variable {Vector κ : Type} [DecidableEq κ] (services : IndexServices Vector)

abbrev CallPool (κ Vector : Type) := Pool κ (IndexState Vector) (IndexCall Vector)

def TrueLabel (point : StoredPoint Vector) : Prop :=
  -- The vector is the one that the model of the version on the label assigns to the text.
  ∃ text, point.payload.lookup "text" = some (.str text) ∧
    ∀ version, point.payload.lookup "embedding_version" = some (.str version) →
      point.vector = services.model version text

def TrueLabels (state : IndexState Vector) : Prop :=
  ∀ name points, (name, points) ∈ state.collections → ∀ point ∈ points, TrueLabel services point.2

inductive Begun (embedding_version : String) : IndexCall Vector → Prop where
  | ingest (request : ProcessDocumentRequest) (passes : Nat) (chunks : List (Dict Value))
      (cut : documentChunks passes request embedding_version = some chunks) :
      Begun embedding_version (.process request chunks)
  | faqs (request : UpsertFAQRequest) : Begun embedding_version (.upsertFaqs request)
  | migrate (request : ReEmbedOrgRequest) : Begun embedding_version (.runMigration request)
  | delete (request : DeleteScrapedDocumentsRequest) :
      Begun embedding_version (.deleteScraped request)

def serving : Pool.System κ (IndexState Vector) (IndexCall Vector) where
  advance := IndexCall.advance services
  begins := fun seen _ call => ∀ state ∈ seen.head?, Begun state.embedding_version call
  environment := fun state reached => reached.collections = state.collections ∧
    reached.cache = state.cache ∧ reached.embedding_version = state.embedding_version

def deployed (pool : CallPool κ Vector) (embedding_version : String) : CallPool κ Vector where
  state := { pool.state with embedding_version }
  past := []
  calls := fun _ => none

inductive Serves (allowed : CallPool κ Vector → κ → IndexCall Vector → Prop) :
    CallPool κ Vector → CallPool κ Vector → Prop where
  | step (pool reached : CallPool κ Vector)
      (stepped : Pool.Step (serving services) allowed pool reached) : Serves allowed pool reached
  | deploy (pool : CallPool κ Vector) (embedding_version : String) :
      Serves allowed pool (deployed pool embedding_version)

def History (allowed : CallPool κ Vector → κ → IndexCall Vector → Prop) :
    CallPool κ Vector → CallPool κ Vector → Prop :=
  Relation.ReflTransGen (Serves services allowed)

def CacheTrue (state : IndexState Vector) (values : List Value) : Prop :=
  -- The cache holds nothing for the texts, or what the present model assigns to them.
  ∀ text, .str text ∈ values → ∀ vector, Embedder.cached services state text = some vector →
    vector = services.model state.embedding_version text

/-- No embedding finds a vector of another model in the cache, the metadata of a document name
no other version than the present one, and a migration that embeds has it for its target. -/
def Truthful (pool : CallPool κ Vector) (_ : κ) (process : IndexCall Vector) : Prop :=
  match process with
  | .embed request chunks =>
    (∀ version,
        (Dict.merge [] request.metadata).lookup "embedding_version" = some (.str version) →
          version = pool.state.embedding_version) ∧
      CacheTrue services pool.state (chunks.map fun chunk => (chunk.lookup "text").getD .none)
  | .upsertFaqs request =>
    CacheTrue services pool.state (request.faqs.map fun entry => .str entry.question)
  | .reembed migration =>
    ∀ points rest, migration.rest = points :: rest → (MigrationService.textsOf points).any Value.truthy = true →
      migration.target_version = pool.state.embedding_version ∧
        CacheTrue services pool.state (MigrationService.textsOf points)
  | _ => True

def Paired (vectors : List Vector) (payloads : List (Dict Value)) : Prop :=
  ∀ point ∈ vectors.zipWith StoredPoint.mk payloads, TrueLabel services point

def Worded (points : List StalePoint) : Prop :=
  ∀ point ∈ points, ∃ text, point.2.lookup "text" = some (.str text)

inductive Informed (embedding_version : String) : IndexCall Vector → Prop where
  | begun (call : IndexCall Vector) (begun : Begun embedding_version call) :
      Informed embedding_version call
  | embed (request : ProcessDocumentRequest) (passes : Nat) (chunks : List (Dict Value))
      (cut : documentChunks passes request embedding_version = some chunks) :
      Informed embedding_version (.embed request chunks)
  | store (request : ProcessDocumentRequest) (chunks : List (Dict Value)) (vectors : List Vector)
      (paired : Paired services vectors chunks) :
      Informed embedding_version (.store request chunks vectors)
  | storeFaqs (request : UpsertFAQRequest) (payloads : List (Dict Value)) (vectors : List Vector)
      (paired : Paired services vectors payloads) :
      Informed embedding_version (.storeFaqs request payloads vectors)
  | reembed (migration : Migration) (worded : ∀ points ∈ migration.rest, Worded points) :
      Informed embedding_version (.reembed migration)
  | rewrite (migration : Migration) (points : List StalePoint) (vectors : List Vector)
      (paired : Paired services vectors
        (points.map fun point => MigrationService.relabelled migration.target_version point.2))
      (worded : ∀ points ∈ migration.rest, Worded points) :
      Informed embedding_version (.rewrite migration points vectors)
  | finished (result : Except PyError IndexReply) : Informed embedding_version (.finished result)

variable {services} {β : Type}

theorem mem_zip_embedded (items : List β) (read : β → Value) (payload : β → Dict Value)
    (texts : List String) (embed : String → Vector) (same : items.map read = texts.map .str)
    (point : StoredPoint Vector)
    (member : point ∈ (texts.map embed).zipWith StoredPoint.mk (items.map payload)) :
    ∃ item ∈ items, ∃ text, read item = .str text ∧ point = ⟨embed text, payload item⟩ := by
  induction items generalizing texts with
  | nil => simp at member
  | cons item rest ih =>
    cases texts with
    | nil => cases same
    | cons text texts =>
      rw [List.map_cons, List.map_cons, List.cons.injEq] at same
      rw [List.map_cons, List.map_cons, List.zipWith_cons_cons, List.mem_cons] at member
      rcases member with rfl | later
      · exact ⟨item, List.mem_cons_self .., text, same.1, rfl⟩
      · obtain ⟨other, among, found⟩ := ih texts same.2 later
        exact ⟨other, List.mem_cons_of_mem _ among, found⟩

variable {state : IndexState Vector} {values : List Value}

theorem vectorOf_true (cacheTrue : CacheTrue services state values) (text : String)
    (among : .str text ∈ values) :
    Embedder.vectorOf services state text = services.model state.embedding_version text := by
  unfold Embedder.vectorOf
  cases found : Embedder.cached services state text with
  | none => rfl
  | some vector => exact cacheTrue text among vector found

variable {reached : IndexState Vector} {vectors : List Vector}

theorem paired_embedded (items : List β) (read : β → Value) (payload : β → Dict Value)
    (cacheTrue : CacheTrue services state (items.map read))
    (worded : ∀ item ∈ items, ∀ text, read item = .str text →
      (payload item).lookup "text" = some (.str text))
    (labelled : ∀ item ∈ items, ∀ version,
      (payload item).lookup "embedding_version" = some (.str version) →
        version = state.embedding_version)
    (done : Embedder.embedMany services (items.map read) state = .ok (vectors, reached)) :
    Paired services vectors (items.map payload) := by
  -- What is embedded with a true cache, and labelled with the present version, is paired.
  obtain ⟨texts, same, rfl, -⟩ := Embedder.embedMany_ok done
  intro point member
  obtain ⟨item, among, text, reads, rfl⟩ :=
    mem_zip_embedded items read payload texts _ same point member
  refine ⟨text, worded item among text reads, ?_⟩
  intro version bears
  rw [labelled item among version bears]
  apply vectorOf_true cacheTrue
  rw [← reads]
  exact List.mem_map_of_mem among

theorem embedMany_same (done : Embedder.embedMany services values state = .ok (vectors, reached)) :
    reached.collections = state.collections ∧
      reached.embedding_version = state.embedding_version := by
  obtain ⟨texts, -, -, rfl | rfl⟩ := Embedder.embedMany_ok done
  · exact ⟨rfl, rfl⟩
  · exact ⟨rfl, rfl⟩

theorem baseMetadata_label (request : ProcessDocumentRequest) (embedding_version version : String)
    (bears : (Dict.merge [] (baseMetadata request embedding_version)).lookup "embedding_version" =
      some (.str version)) :
    version = embedding_version ∨
      (Dict.merge [] request.metadata).lookup "embedding_version" = some (.str version) := by
  have distinct : ((baseMetadata request embedding_version).map Prod.fst).Nodup := by
    apply Dict.nodup_merge
    simp
  rw [Dict.merge_new [] _ distinct (by simp), List.nil_append, baseMetadata, Dict.lookup_merge]
    at bears
  cases named : (Dict.merge [] request.metadata).lookup "embedding_version" with
  | none =>
    rw [named] at bears
    left
    simpa [List.lookup_cons, eq_comm] using bears
  | some value =>
    rw [named] at bears
    exact .inr bears

section TrueLabels

variable (labelled : TrueLabels services state)

include labelled

theorem TrueLabels.of_collections (same : reached.collections = state.collections) :
    TrueLabels services reached := by
  rwa [TrueLabels, same]

variable (org_id : String)

theorem TrueLabels.points : ∀ point ∈ state.points org_id, TrueLabel services point.2 := by
  intro point member
  unfold IndexState.points at member
  cases there : QdrantVectorStore.collection org_id state with
  | none =>
    rw [there] at member
    cases member
  | some points =>
    rw [there] at member
    exact labelled _ points (Dict.mem_of_lookup _ _ _ there) point member

theorem TrueLabels.set (points : Collection Vector)
    (true_ : ∀ point ∈ points, TrueLabel services point.2) :
    TrueLabels services (QdrantVectorStore.setCollection org_id points state) := by
  intro name collection among
  rcases Dict.mem_put _ _ _ _ among with before | added
  · exact labelled name collection before
  · cases added
    exact true_

theorem TrueLabels.filtered (keep : String × StoredPoint Vector → Bool) :
    TrueLabels services
      (QdrantVectorStore.setCollection org_id ((state.points org_id).filter keep) state) := by
  apply labelled.set
  intro point among
  exact labelled.points org_id point (List.mem_of_mem_filter among)

theorem TrueLabels.stored {org_id : String} {payloads : List (Dict Value)}
    (paired : Paired services vectors payloads) {ids : Option (List String)} {value : Unit}
    (done : QdrantVectorStore.upsert services org_id vectors payloads ids state =
      .ok (value, reached)) :
    TrueLabels services reached ∧ reached.embedding_version = state.embedding_version := by
  have merged (ids : List String) (before : IndexState Vector)
      (sound : TrueLabels services before) :
      TrueLabels services (QdrantVectorStore.setCollection org_id
        (Dict.merge (before.points org_id) (QdrantVectorStore.zipPoints ids vectors payloads))
        before) := by
    apply sound.set
    intro point among
    rcases Dict.mem_merge _ _ _ among with old | new
    · exact sound.points org_id point old
    · exact paired _ (List.of_mem_zip new).2
  cases ids with
  | none =>
    rw [QdrantVectorStore.upsertPoints_ok done]
    exact ⟨merged _ _ (labelled.of_collections rfl), rfl⟩
  | some ids =>
    rw [QdrantVectorStore.upsertPoints_ok done]
    exact ⟨merged ids state labelled, rfl⟩

end TrueLabels

/-- What a step leaves behind, and what it tells the call. -/
structure Kept (services : IndexServices Vector) (embedding_version : String)
    (next : IndexCall Vector) (reached : IndexState Vector) : Prop where
  labelled : TrueLabels services reached
  version : reached.embedding_version = embedding_version
  informed : Informed services embedding_version next

theorem relabelled_true {target_version : String} {point : StalePoint} {text : String}
    (worded : point.2.lookup "text" = some (.str text)) :
    (MigrationService.relabelled target_version point.2).lookup "text" = some (.str text) ∧
      ∀ version, (MigrationService.relabelled target_version point.2).lookup "embedding_version" =
        some (.str version) → version = target_version := by
  unfold MigrationService.relabelled
  refine ⟨by rwa [Dict.lookup_put, if_neg (by decide)], ?_⟩
  intro version bears
  rw [Dict.lookup_put, if_pos rfl] at bears
  cases bears
  rfl

theorem scrolled_worded {state reached : IndexState Vector} {org_id current_version : String}
    {stale : List StalePoint} (labelled : TrueLabels services state)
    (done : QdrantVectorStore.scrollStaleChunks org_id current_version state =
      .ok (stale, reached)) :
    Worded stale ∧ TrueLabels services reached ∧
      reached.embedding_version = state.embedding_version := by
  obtain ⟨rfl, rfl⟩ := QdrantVectorStore.scrollStaleChunks_ok done
  refine ⟨?_, labelled.set org_id _ (labelled.points org_id), rfl⟩
  intro point member
  obtain ⟨stored, among, rfl⟩ := List.mem_map.mp member
  obtain ⟨text, worded, -⟩ := labelled.points org_id stored (List.mem_of_mem_filter among)
  exact ⟨text, worded⟩

theorem startMigration_informed (embedding_version : String) (request : ReEmbedOrgRequest)
    (target_version : String) (stale : List StalePoint) (worded : Worded stale) :
    Informed services embedding_version
      (IndexCall.startMigration request target_version stale) := by
  unfold IndexCall.startMigration
  split_ifs
  · exact .finished _
  · cases grouped : MigrationService.groupByDocument stale with
    | error error => exact .finished _
    | ok groups =>
      apply Informed.reembed
      intro points member point among
      obtain ⟨group, within, rfl⟩ := List.mem_map.mp member
      exact worded point
        (MigrationService.mem_groupByDocument stale groups grouped group within point among)

theorem Kept.proceed {α : Type} {next : IndexCall Vector}
    {outcome : Except PyError (α × IndexState Vector)} {continued : α → IndexCall Vector}
    (labelled : TrueLabels services state)
    (kept : ∀ value after, outcome = .ok (value, after) →
      Kept services state.embedding_version (continued value) after)
    (advanced : IndexCall.proceed state outcome continued = (next, reached)) :
    Kept services state.embedding_version next reached := by
  -- A call goes on with what its step has returned, or it ends with the state as it was.
  rcases done : outcome with error | ⟨value, after⟩
  · rw [done] at advanced
    cases advanced
    exact ⟨labelled, rfl, .finished _⟩
  · rw [done] at advanced
    cases advanced
    exact kept _ _ done

omit [DecidableEq κ] in
theorem Informed.advance {pool : CallPool κ Vector} {call : κ} {process next : IndexCall Vector}
    {reached : IndexState Vector} (labelled : TrueLabels services pool.state)
    (informed : Informed services pool.state.embedding_version process)
    (truthful : Truthful services pool call process)
    (advanced : process.advance services pool.state = some (next, reached)) :
    Kept services pool.state.embedding_version next reached := by
  cases informed with
  | begun process begun =>
    cases begun with
    | ingest request passes chunks cut =>
      apply Kept.proceed labelled _ (Option.some.inj advanced)
      intro value after done
      rw [QdrantVectorStore.deleteByDocument_ok done]
      exact ⟨labelled.filtered _ _, rfl, .embed request passes chunks cut⟩
    | faqs request =>
      simp only [IndexCall.advance] at advanced
      split_ifs at advanced
      · cases advanced
        exact ⟨labelled, rfl, .finished _⟩
      · apply Kept.proceed labelled _ (Option.some.inj advanced)
        intro vectors after done
        obtain ⟨same, version⟩ := embedMany_same done
        refine ⟨labelled.of_collections same, version, .storeFaqs request _ vectors ?_⟩
        apply paired_embedded request.faqs _ _ truthful _ _ done
        · intro entry _ text reads
          cases reads
          rfl
        · intro entry _ version bears
          cases bears
          rfl
    | migrate request =>
      apply Kept.proceed labelled _ (Option.some.inj advanced)
      intro stale after done
      obtain ⟨worded, labelled', version⟩ := scrolled_worded labelled done
      exact ⟨labelled', version, startMigration_informed _ _ _ stale worded⟩
    | delete request =>
      simp only [IndexCall.advance, Option.some.injEq, Prod.mk.injEq] at advanced
      obtain ⟨rfl, rfl⟩ := advanced
      rcases @QdrantVectorStore.deleteByDocuments_cases _ request.org_id pool.state
        request.document_ids with same | same
      · rw [same]
        exact ⟨labelled, rfl, .finished _⟩
      · rw [same]
        exact ⟨labelled.filtered _ _, rfl, .finished _⟩
  | embed request passes chunks cut =>
    apply Kept.proceed labelled _ (Option.some.inj advanced)
    intro vectors after done
    obtain ⟨same, version⟩ := embedMany_same done
    refine ⟨labelled.of_collections same, version, .store request chunks vectors ?_⟩
    have paired := paired_embedded chunks _ id truthful.2 ?_ ?_ done
    · rwa [List.map_id] at paired
    · intro chunk _ text reads
      cases there : chunk.lookup "text" with
      | none =>
        rw [there] at reads
        cases reads
      | some value =>
        rw [there] at reads
        rw [id, there, show value = .str text from reads]
    · intro chunk among version bears
      rw [id, chunks_alike passes request _ chunks cut "embedding_version" (by decide) chunk among]
        at bears
      rcases baseMetadata_label request _ version bears with present | named
      · exact present
      · exact truthful.1 version named
  | store request chunks vectors paired =>
    apply Kept.proceed labelled _ (Option.some.inj advanced)
    intro value after done
    obtain ⟨labelled', version⟩ := labelled.stored paired done
    exact ⟨labelled', version, .finished _⟩
  | storeFaqs request payloads vectors paired =>
    apply Kept.proceed labelled _ (Option.some.inj advanced)
    intro value after done
    obtain ⟨labelled', version⟩ := labelled.stored paired done
    exact ⟨labelled', version, .finished _⟩
  | reembed migration worded =>
    simp only [IndexCall.advance] at advanced
    cases groups : migration.rest with
    | nil =>
      rw [groups] at advanced
      cases advanced
      exact ⟨labelled, rfl, .finished _⟩
    | cons points rest =>
      rw [groups] at advanced worded
      have later : ∀ points ∈ rest, Worded points := fun points among =>
        worded points (List.mem_cons_of_mem _ among)
      simp only at advanced
      split_ifs at advanced with spoken
      · rcases done : Embedder.embedMany services (MigrationService.textsOf points) pool.state with
          error | ⟨vectors, after⟩
        · rw [done] at advanced
          cases advanced
          exact ⟨labelled, rfl, .reembed _ later⟩
        · rw [done] at advanced
          cases advanced
          obtain ⟨same, version⟩ := embedMany_same done
          obtain ⟨target, cacheTrue⟩ := truthful points rest groups spoken
          refine ⟨labelled.of_collections same, version, .rewrite _ points vectors ?_ later⟩
          apply paired_embedded points _ _ cacheTrue _ _ done
          · intro point among text reads
            obtain ⟨said, there⟩ := worded points (List.mem_cons_self ..) point among
            rw [there] at reads
            cases reads
            exact (relabelled_true there).1
          · intro point among version bears
            obtain ⟨said, there⟩ := worded points (List.mem_cons_self ..) point among
            rw [(relabelled_true there).2 version bears, target]
      · cases advanced
        exact ⟨labelled, rfl, .reembed _ later⟩
  | rewrite migration points vectors paired worded =>
    simp only [IndexCall.advance] at advanced
    rcases done : QdrantVectorStore.upsert services migration.org_id vectors
      (points.map fun point => MigrationService.relabelled migration.target_version point.2)
      (some (points.map Prod.fst)) pool.state with error | ⟨value, after⟩
    · rw [done] at advanced
      cases advanced
      exact ⟨labelled, rfl, .reembed _ worded⟩
    · rw [done] at advanced
      cases advanced
      obtain ⟨labelled', version⟩ := labelled.stored paired done
      exact ⟨labelled', version, .reembed _ worded⟩
  | finished result => cases advanced

structure Labelled (services : IndexServices Vector) (pool : CallPool κ Vector) : Prop where
  labelled : TrueLabels services pool.state
  informed : ∀ call process, pool.calls call = some process →
    Informed services pool.state.embedding_version process

theorem Labelled.step {pool reached : CallPool κ Vector} (holds : Labelled services pool)
    (stepped : Serves services (Truthful services) pool reached) : Labelled services reached := by
  cases stepped with
  | deploy embedding_version => exact ⟨holds.labelled, nofun⟩
  | step _ stepped =>
    cases stepped with
    | start call process unused begun =>
      exact ⟨holds.labelled, Pool.put_forall _ (.begun _ (begun _ rfl)) holds.informed⟩
    | statement call process next state running permitted advanced =>
      have kept := (holds.informed call process running).advance holds.labelled permitted advanced
      refine ⟨kept.labelled, ?_⟩
      rw [kept.version]
      exact Pool.put_forall _ kept.informed holds.informed
    | outside state moved =>
      refine ⟨holds.labelled.of_collections moved.1, ?_⟩
      intro call process running
      rw [moved.2.2]
      exact holds.informed call process running

variable (services)

theorem served {allowed : CallPool κ Vector → κ → IndexCall Vector → Prop}
    {pool final : CallPool κ Vector} (run : Pool.Run (serving services) allowed pool final) :
    History services allowed pool final :=
  Relation.ReflTransGen.mono (fun _ _ stepped => .step _ _ stepped) _ _ run

end Labels

end Labels

open Labels

end HelpForge.Chatbot
