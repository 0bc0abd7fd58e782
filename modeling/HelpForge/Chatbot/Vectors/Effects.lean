import HelpForge.Chatbot.Vectors.Calls

set_option autoImplicit false

namespace HelpForge.Chatbot

open Lib

section Points

variable {Vector : Type} (services : IndexServices Vector) (org_id : String)

def IndexState.points (state : IndexState Vector) : Collection Vector :=
  -- The points of the organisation; none where it has no collection.
  (QdrantVectorStore.collection org_id state).getD []

def IndexState.pointIds (state : IndexState Vector) : List String :=
  (state.points org_id).map Prod.fst

/-- What `uuid4` is yet to give is not the id of a point. -/
structure IndexState.Fresh (state : IndexState Vector) : Prop where
  distinct : Function.Injective services.uuid
  unused : ∀ later, state.minted ≤ later → services.uuid later ∉ state.pointIds org_id

variable {vectors : List Vector} {value : Unit}

namespace QdrantVectorStore

variable {org_id} {state reached : IndexState Vector}

@[simp] theorem collection_setCollection (points : Collection Vector) :
    collection org_id (setCollection org_id points state) = some points := by
  simp [collection, setCollection, Dict.lookup_put]

@[simp] theorem points_setCollection (points : Collection Vector) :
    (setCollection org_id points state).points org_id = points := by
  simp [IndexState.points]

theorem onCollection_ok {α : Type} {body : Collection Vector → α × Collection Vector} {value : α}
    (done : onCollection org_id body state = .ok (value, reached)) :
    ∃ points, collection org_id state = some points ∧ value = (body points).1 ∧
      reached = setCollection org_id (body points).2 state := by
  unfold onCollection at done
  split_ifs at done with up
  cases there : collection org_id state with
  | none =>
    rw [there] at done
    cases done
  | some points =>
    rw [there] at done
    cases done
    exact ⟨points, rfl, rfl, rfl⟩

theorem deleteByDocument_ok {document_id : String}
    (done : deleteByDocument org_id document_id state = .ok (value, reached)) :
    reached = setCollection org_id
      ((state.points org_id).filter fun point => !ofDocument document_id point.2.payload) state := by
  obtain ⟨points, there, -, rfl⟩ := onCollection_ok done
  rw [IndexState.points, there]
  rfl

theorem deleteByDocuments_cases (document_ids : List String) :
    (deleteByDocuments org_id document_ids state).2 = state ∨
      (deleteByDocuments org_id document_ids state).2 = setCollection org_id
        ((state.points org_id).filter fun point =>
          !document_ids.any fun id => ofDocument id point.2.payload) state := by
  unfold deleteByDocuments
  split_ifs
  · exact .inl rfl
  · cases there : collection org_id state with
    | none => exact .inl rfl
    | some points =>
      right
      rw [IndexState.points, there]
      rfl

theorem upsertPoints_ok {points : List (String × StoredPoint Vector)}
    (done : upsertPoints org_id points state = .ok (value, reached)) :
    reached = setCollection org_id (Dict.merge (state.points org_id) points) state := by
  unfold upsertPoints at done
  split_ifs at done with up
  cases done
  rfl

theorem scrollStaleChunks_ok {current_version : String} {stale : List StalePoint}
    (done : scrollStaleChunks org_id current_version state = .ok (stale, reached)) :
    reached = setCollection org_id (state.points org_id) state ∧
      stale = ((state.points org_id).filter fun point =>
        !matchValue current_version (point.2.payload.lookup "embedding_version")).map
          fun point => (point.1, point.2.payload) := by
  obtain ⟨points, there, same, rfl⟩ := onCollection_ok done
  rw [IndexState.points, there]
  exact ⟨rfl, same⟩

variable (ids : List String)

theorem map_fst_zipPoints (vectors : List Vector) (payloads : List (Dict Value))
    (counted : ids.length = vectors.length) (paired : vectors.length = payloads.length) :
    (zipPoints ids vectors payloads).map Prod.fst = ids := by
  rw [zipPoints, List.map_fst_zip]
  rw [List.length_zipWith]
  omega

theorem payloads_zipPoints (vectors : List Vector) (payloads : List (Dict Value))
    (counted : ids.length = vectors.length) (paired : vectors.length = payloads.length) :
    (zipPoints ids vectors payloads).map (fun point => point.2.payload) = payloads := by
  have second : (zipPoints ids vectors payloads).map Prod.snd =
      vectors.zipWith StoredPoint.mk payloads := by
    rw [zipPoints, List.map_snd_zip]
    rw [List.length_zipWith]
    omega
  change (zipPoints ids vectors payloads).map (StoredPoint.payload ∘ Prod.snd) = payloads
  rw [← List.map_map, second, List.map_zipWith]
  clear second counted
  induction vectors generalizing payloads with
  | nil =>
    rw [List.length_nil, eq_comm, List.length_eq_zero_iff] at paired
    rw [paired]
    rfl
  | cons vector rest ih =>
    cases payloads with
    | nil => cases paired
    | cons payload payloads =>
      rw [List.length_cons, List.length_cons, Nat.succ_inj] at paired
      rw [List.zipWith_cons_cons, ih payloads paired]

theorem upsert_new (fresh : state.Fresh services org_id) {payloads : List (Dict Value)}
    (paired : vectors.length = payloads.length)
    (done : upsert services org_id vectors payloads none state = .ok (value, reached)) :
    ∃ added, reached.points org_id = state.points org_id ++ added ∧
      added.map (fun point => point.2.payload) = payloads ∧
      added.map Prod.fst =
        (List.range vectors.length).map (fun index => services.uuid (state.minted + index)) ∧
      reached.Fresh services org_id := by
  -- An upsert without ids adds the payloads under new ones.
  let ids := (List.range vectors.length).map fun index => services.uuid (state.minted + index)
  have counted : ids.length = vectors.length := by simp [ids]
  have named := map_fst_zipPoints ids vectors payloads counted paired
  have apart : ids.Nodup := by
    apply List.Nodup.map _ List.nodup_range
    intro one other same
    have equal := fresh.distinct same
    omega
  have unused : ∀ point ∈ zipPoints ids vectors payloads, point.1 ∉ state.pointIds org_id := by
    intro point member
    have among : point.1 ∈ ids := named ▸ List.mem_map_of_mem member
    obtain ⟨index, -, same⟩ := List.mem_map.mp among
    rw [← same]
    exact fresh.unused _ (Nat.le_add_right ..)
  have stored := upsertPoints_ok done
  have appended := Dict.merge_new (state.points org_id) _ (by rw [named]; exact apart) unused
  have points : reached.points org_id =
      state.points org_id ++ zipPoints ids vectors payloads := by
    rw [stored, points_setCollection, ← appended]
    rfl
  refine ⟨_, points, payloads_zipPoints ids vectors payloads counted paired, named,
    fresh.distinct, ?_⟩
  intro later past among
  have minted : reached.minted = state.minted + vectors.length := by rw [stored]; rfl
  rw [IndexState.pointIds, points, List.map_append, List.mem_append, named] at among
  rcases among with old | new
  · exact fresh.unused later (by omega) old
  · obtain ⟨index, inside, same⟩ := List.mem_map.mp new
    have equal := fresh.distinct same
    have within := List.mem_range.mp inside
    omega

end QdrantVectorStore

namespace Embedder

variable {services} {state reached : IndexState Vector} {values : List Value}

theorem mapM_textOf_ok {texts : List String} (read : values.mapM textOf = .ok texts) :
    values = texts.map .str := by
  rw [mapM_eq_ok] at read
  induction read with
  | nil => rfl
  | @cons value text _ _ first _ ih =>
    cases value with
    | str value =>
      cases first
      rw [List.map_cons, ih]
    | _ => cases first

theorem mapM_textOf (texts : List String) : (texts.map Value.str).mapM textOf = .ok texts := by
  induction texts with
  | nil => rfl
  | cons text rest ih =>
    rw [List.map_cons, List.mapM_cons, ih]
    rfl

theorem embedMany_ok (done : embedMany services values state = .ok (vectors, reached)) :
    ∃ texts : List String, values = texts.map .str ∧ vectors = texts.map (vectorOf services state) ∧
      (reached = state ∨ reached = writeCache services
        (texts.filter fun text => (cached services state text).isNone) state) := by
  unfold embedMany at done
  rw [bind_eq_ok] at done
  obtain ⟨texts, read, done⟩ := done
  refine ⟨texts, mapM_textOf_ok read, ?_⟩
  simp only at done
  split_ifs at done
  · cases done
    exact ⟨rfl, .inl rfl⟩
  · cases done
    exact ⟨rfl, .inr rfl⟩

theorem embedMany_points (done : embedMany services values state = .ok (vectors, reached)) :
    vectors.length = values.length ∧ reached.collections = state.collections ∧
      reached.minted = state.minted := by
  obtain ⟨texts, rfl, rfl, rfl | rfl⟩ := embedMany_ok done
  · exact ⟨by simp, rfl, rfl⟩
  · exact ⟨by simp, rfl, rfl⟩

end Embedder

namespace MigrationService

theorem mem_addTo (key : Value) (point : StalePoint) (groups : List (Value × List StalePoint))
    (group : Value × List StalePoint) (other : StalePoint)
    (member : group ∈ addTo key point groups) (among : other ∈ group.2) :
    other = point ∨ ∃ before ∈ groups, other ∈ before.2 := by
  induction groups with
  | nil =>
    obtain rfl := List.mem_singleton.mp member
    exact .inl (List.mem_singleton.mp among)
  | cons first rest ih =>
    obtain ⟨known, points⟩ := first
    unfold addTo at member
    split_ifs at member with same
    · rcases List.mem_cons.mp member with rfl | later
      · rcases List.mem_append.mp among with old | new
        · exact .inr ⟨_, List.mem_cons_self .., old⟩
        · exact .inl (List.mem_singleton.mp new)
      · exact .inr ⟨group, List.mem_cons_of_mem _ later, among⟩
    · rcases List.mem_cons.mp member with rfl | later
      · exact .inr ⟨_, List.mem_cons_self .., among⟩
      · rcases ih later with new | ⟨before, within, old⟩
        · exact .inl new
        · exact .inr ⟨before, List.mem_cons_of_mem _ within, old⟩

theorem mem_groupByDocument (points : List StalePoint)
    (groups : List (Value × List StalePoint))
    (grouped : groupByDocument points = .ok groups)
    (group : Value × List StalePoint) (member : group ∈ groups) (point : StalePoint)
    (among : point ∈ group.2) : point ∈ points := by
  unfold groupByDocument at grouped
  have general (rest : List StalePoint) (before : List (Value × List StalePoint))
      (read : rest.foldlM
        (fun groups point => do
          let key ← keyOf point
          return addTo key point groups) before = .ok groups)
      (inside : ∀ group ∈ before, ∀ point ∈ group.2, point ∈ points)
      (within : ∀ point ∈ rest, point ∈ points) : point ∈ points := by
    induction rest generalizing before with
    | nil =>
      cases read
      exact inside group member point among
    | cons first rest ih =>
      rw [List.foldlM_cons, bind_eq_ok] at read
      obtain ⟨next, added, read⟩ := read
      rw [bind_eq_ok] at added
      obtain ⟨key, -, same⟩ := added
      cases same
      apply ih _ read
      · intro group member other among
        rcases mem_addTo key first before group other member among with rfl | ⟨old, was, here⟩
        · exact within other (List.mem_cons_self ..)
        · exact inside old was other here
      · exact fun other later => within other (List.mem_cons_of_mem _ later)
  exact general points [] grouped nofun fun _ inside => inside

end MigrationService

theorem lookup_fields (fields metadata : Dict Value) (key : String)
    (other : key ∉ fields.map Prod.fst) :
    (Dict.merge fields metadata).lookup key = (Dict.merge [] metadata).lookup key := by
  have absent : fields.lookup key = none := by
    apply List.lookup_eq_none_iff.mpr
    rintro ⟨name, value⟩ member
    have apart : key ≠ name := fun same => other (same ▸ List.mem_map_of_mem member)
    simpa using apart
  rw [Dict.lookup_merge, absent, Option.or_none]

theorem lookup_chunk (text : List Char) (chunk_index : Nat) (char_start char_end : Int)
    (metadata : Dict Value) (key : String)
    (other : key ∉ ["text", "chunk_index", "char_start", "char_end"]) :
    (DocumentChunker.chunk text chunk_index char_start char_end metadata).lookup key =
      (Dict.merge [] metadata).lookup key :=
  lookup_fields _ metadata key other

theorem window_alike (chunker : DocumentChunker) (text : List Char) (metadata : Dict Value)
    (key : String) (other : key ∉ ["text", "chunk_index", "char_start", "char_end"])
    (state : DocumentChunker.ChunkState)
    (alike : ∀ chunk ∈ state.chunks, chunk.lookup key = (Dict.merge [] metadata).lookup key) :
    match chunker.window text metadata state with
    | .next reached =>
      ∀ chunk ∈ reached.chunks, chunk.lookup key = (Dict.merge [] metadata).lookup key
    | .done chunks => ∀ chunk ∈ chunks, chunk.lookup key = (Dict.merge [] metadata).lookup key := by
  unfold DocumentChunker.window
  by_cases inside : state.start < text.length
  · rw [if_pos inside]
    let stop := chunker.windowEnd text state.start
    let cut := strip (slice text state.start stop)
    let added : DocumentChunker.ChunkState :=
      if cut = [] then state
      else
        { state with
          chunk_index := state.chunk_index + 1
          chunks := state.chunks ++
            [DocumentChunker.chunk cut state.chunk_index state.start stop metadata] }
    have kept : ∀ chunk ∈ added.chunks,
        chunk.lookup key = (Dict.merge [] metadata).lookup key := by
      by_cases blank : cut = []
      · simpa only [added, blank, if_true] using alike
      · simp only [added, blank, if_false, List.mem_append, List.mem_singleton]
        rintro chunk (before | rfl)
        · exact alike chunk before
        · exact lookup_chunk _ _ _ _ _ key other
    change match (if stop - chunker.chunk_overlap ≥ text.length then Pass.done added.chunks
      else Pass.next { added with start := stop - chunker.chunk_overlap }) with
      | .next reached => _
      | .done chunks => _
    split_ifs
    · exact kept
    · exact kept
  · rw [if_neg inside]
    exact alike

theorem chunks_alike (passes : Nat) (request : ProcessDocumentRequest)
    (embedding_version : String) (chunks : List (Dict Value))
    (cut : documentChunks passes request embedding_version = some chunks) (key : String)
    (other : key ∉ ["text", "chunk_index", "char_start", "char_end"]) :
    ∀ chunk ∈ chunks, chunk.lookup key =
      (Dict.merge [] (baseMetadata request embedding_version)).lookup key := by
  -- What the metadata says, it says of every chunk.
  unfold documentChunks at cut
  split_ifs at cut with chunked
  · unfold DocumentChunker.chunkText at cut
    simp only at cut
    split_ifs at cut with short
    · cases cut
      intro chunk member
      rw [List.mem_singleton.mp member]
      exact lookup_chunk _ _ _ _ _ key other
    · let metadata := baseMetadata request embedding_version
      apply Loop.run_some_of_invariant _
        (fun state : DocumentChunker.ChunkState => ∀ chunk ∈ state.chunks,
          chunk.lookup key = (Dict.merge [] metadata).lookup key)
        (fun chunks => ∀ chunk ∈ chunks,
          chunk.lookup key = (Dict.merge [] metadata).lookup key) _ _ passes {} chunks nofun cut
      · intro state reached alike pass
        have kept := window_alike chunker (normalize request.content.toList) metadata key other
          state alike
        rwa [pass] at kept
      · intro state result alike pass
        have kept := window_alike chunker (normalize request.content.toList) metadata key other
          state alike
        rwa [pass] at kept
  · cases cut
    intro chunk member
    rw [List.mem_singleton.mp member]
    simp only [List.mem_cons, List.not_mem_nil, or_false, not_or] at other
    apply lookup_fields
    simp [other]

end Points

end HelpForge.Chatbot
