import HelpForge.Chatbot.Vectors.Reindexing

set_option autoImplicit false

namespace HelpForge.Chatbot

open Lib
open QdrantVectorStore (collection_setCollection onCollection_ok points_setCollection
  upsertPoints_ok upsert_new)

def unlabelled (payload : Dict Value) : Dict Value :=
  payload.filter fun entry => entry.1 != "embedding_version"

theorem unlabelled_relabelled (target_version : String) (payload : Dict Value) :
    unlabelled (MigrationService.relabelled target_version payload) = unlabelled payload := by
  unfold unlabelled MigrationService.relabelled
  induction payload with
  | nil => rfl
  | cons entry rest ih =>
    obtain ⟨key, value⟩ := entry
    by_cases label : key = "embedding_version"
    · simp [Dict.put, label]
    · rw [Dict.put, if_neg label, List.filter_cons_of_pos (by simpa using label),
        List.filter_cons_of_pos (by simpa using label), ih]

theorem lookup_unlabelled (payload : Dict Value) (key : String)
    (other : key ≠ "embedding_version") : (unlabelled payload).lookup key = payload.lookup key := by
  unfold unlabelled
  induction payload with
  | nil => rfl
  | cons entry rest ih =>
    obtain ⟨name, value⟩ := entry
    by_cases label : name = "embedding_version"
    · rw [List.filter_cons_of_neg (by simpa using label), ih, Dict.lookup_entry, label,
        if_neg other]
    · rw [List.filter_cons_of_pos (by simpa using label), Dict.lookup_entry, Dict.lookup_entry, ih]

theorem ofDocument_unlabelled (document_id : String) (payload : Dict Value) :
    ofDocument document_id (unlabelled payload) = ofDocument document_id payload := by
  rw [ofDocument, lookup_unlabelled payload "document_id" (by decide), ofDocument]

section Contents

variable {Vector : Type} (services : IndexServices Vector) (org_id : String)

def contentsOf (points : Collection Vector) : Dict (Dict Value) :=
  -- The points by their ids, apart from their vectors and versions.
  Dict.mapValues (fun point => unlabelled point.payload) points

def IndexState.contents (state : IndexState Vector) : Dict (Dict Value) :=
  contentsOf (state.points org_id)

theorem contents_keys (state : IndexState Vector) :
    (state.contents org_id).map Prod.fst = state.pointIds org_id := by
  simp [IndexState.contents, contentsOf, Dict.mapValues, IndexState.pointIds]

theorem contentsOf_filter (points : Collection Vector) (keep : Dict Value → Bool)
    (blind : ∀ payload, keep (unlabelled payload) = keep payload) :
    contentsOf (points.filter fun point => keep point.2.payload) =
      (contentsOf points).filter fun entry => keep entry.2 := by
  simp only [contentsOf, Dict.mapValues, List.filter_map]
  congr 1
  apply List.filter_congr
  intro point _
  exact (blind point.2.payload).symm

theorem contentsOf_merge (points added : Collection Vector) :
    contentsOf (Dict.merge points added) = Dict.merge (contentsOf points) (contentsOf added) :=
  Dict.mapValues_merge _ points added

theorem contentsOf_zipPoints (ids : List String) (vectors : List Vector)
    (payloads : List (Dict Value)) (paired : vectors.length = payloads.length) :
    contentsOf (QdrantVectorStore.zipPoints ids vectors payloads) =
      ids.zip (payloads.map unlabelled) := by
  simp only [contentsOf, Dict.mapValues, QdrantVectorStore.zipPoints]
  induction payloads generalizing ids vectors with
  | nil => simp
  | cons payload rest ih =>
    cases vectors with
    | nil => cases paired
    | cons vector vectors =>
      rw [List.length_cons, List.length_cons, Nat.succ_inj] at paired
      cases ids with
      | nil => simp
      | cons id ids => simpa using ih ids vectors paired

end Contents

namespace Migrating

inductive OfOrg {Vector : Type} (org_id : String) : IndexCall Vector → Prop where
  | ingest (request : ProcessDocumentRequest) (embedding_version : String) (passes : Nat)
      (chunks : List (Dict Value)) (org : request.org_id = org_id)
      (cut : documentChunks passes request embedding_version = some chunks) :
      OfOrg org_id (.process request chunks)
  | delete (request : DeleteScrapedDocumentsRequest) (org : request.org_id = org_id) :
      OfOrg org_id (.deleteScraped request)
  | migrate (request : ReEmbedOrgRequest) (org : request.org_id = org_id) :
      OfOrg org_id (.runMigration request)

abbrev OrgJob (Vector : Type) (org_id : String) := { call : IndexCall Vector // OfOrg org_id call }

def migrates {Vector : Type} : IndexCall Vector → Bool
  | .runMigration _ | .reembed _ | .rewrite _ _ _ => true
  | _ => false

section Steps

variable {Vector κ : Type} [DecidableEq κ] (services : IndexServices Vector) {org_id : String}

def migrating (jobs : κ → OrgJob Vector org_id) (call : κ) : Bool := migrates (jobs call).1

def start (jobs : κ → OrgJob Vector org_id) (call : κ) : IndexCall Vector := (jobs call).1

def played (jobs : κ → OrgJob Vector org_id) (state : IndexState Vector) (turns : List κ) :
    IndexPool κ Vector :=
  -- The calls take their turns in the given order.
  Pool.play (IndexCall.advance services) (start jobs) (turns.map .turn) (Pool.idle state)

def Careful (org_id : String) (pool : IndexPool κ Vector) (_ : κ) (process : IndexCall Vector) :
    Prop :=
  -- Every point that a migration writes is still there.
  ∀ migration points vectors, process = .rewrite migration points vectors →
    ∀ point ∈ points, point.1 ∈ pool.state.pointIds org_id

/-- A point that a migration has read: what is stored under its id says the same, and the id
will not be given again. -/
structure Snapshot (org_id : String) (state : IndexState Vector) (point : StalePoint) : Prop where
  known : ∀ later, state.minted ≤ later → services.uuid later ≠ point.1
  alike : ∀ payload, (point.1, payload) ∈ state.contents org_id → payload = unlabelled point.2

inductive Progress (org_id : String) (state : IndexState Vector) : IndexCall Vector → Prop where
  | begun (call : IndexCall Vector) (ofOrg : OfOrg org_id call) : Progress org_id state call
  | embed (request : ProcessDocumentRequest) (chunks : List (Dict Value))
      (org : request.org_id = org_id) : Progress org_id state (.embed request chunks)
  | store (request : ProcessDocumentRequest) (chunks : List (Dict Value)) (vectors : List Vector)
      (org : request.org_id = org_id) (paired : vectors.length = chunks.length) :
      Progress org_id state (.store request chunks vectors)
  | reembed (migration : Migration) (org : migration.org_id = org_id)
      (read : ∀ points ∈ migration.rest, ∀ point ∈ points, Snapshot services org_id state point) :
      Progress org_id state (.reembed migration)
  | rewrite (migration : Migration) (points : List StalePoint) (vectors : List Vector)
      (org : migration.org_id = org_id) (paired : vectors.length = points.length)
      (some : points ≠ []) (now : ∀ point ∈ points, Snapshot services org_id state point)
      (read : ∀ points ∈ migration.rest, ∀ point ∈ points, Snapshot services org_id state point) :
      Progress org_id state (.rewrite migration points vectors)
  | finished (result : Except PyError IndexReply) : Progress org_id state (.finished result)

structure Later (org_id : String) (state reached : IndexState Vector) : Prop where
  minted : state.minted ≤ reached.minted
  entries : ∀ entry ∈ reached.contents org_id, entry ∈ state.contents org_id ∨
    ∃ given, state.minted ≤ given ∧ given < reached.minted ∧ entry.1 = services.uuid given

variable {services} {state : IndexState Vector} {reached : IndexState Vector}

theorem Snapshot.later {state reached : IndexState Vector} {point : StalePoint}
    (snapshot : Snapshot services org_id state point) (later : Later services org_id state reached) :
    Snapshot services org_id reached point where
  known given past := snapshot.known given (Nat.le_trans later.minted past)
  alike payload among := by
    rcases later.entries _ among with before | ⟨given, new, -, same⟩
    · exact snapshot.alike payload before
    · exact absurd same.symm (snapshot.known given new)

variable {process : IndexCall Vector}

theorem Progress.later (progress : Progress services org_id state process)
    (later : Later services org_id state reached) : Progress services org_id reached process := by
  cases progress with
  | begun _ ofOrg => exact .begun process ofOrg
  | embed request chunks org => exact .embed request chunks org
  | store request chunks vectors org paired => exact .store request chunks vectors org paired
  | reembed migration org read =>
    exact .reembed migration org fun points member point among =>
      (read points member point among).later later
  | rewrite migration points vectors org paired some now read =>
    exact .rewrite migration points vectors org paired some
      (fun point among => (now point among).later later)
      fun points member point among => (read points member point among).later later
  | finished result => exact .finished result

theorem Later.of_contents (minted : reached.minted = state.minted)
    (entries : ∀ entry ∈ reached.contents org_id, entry ∈ state.contents org_id) :
    Later services org_id state reached :=
  ⟨Nat.le_of_eq minted.symm, fun entry among => .inl (entries entry among)⟩

theorem Later.refl (state : IndexState Vector) : Later services org_id state state :=
  .of_contents rfl fun _ among => among

structure Sound (services : IndexServices Vector) (org_id : String) (state : IndexState Vector) :
    Prop where
  fresh : state.Fresh services org_id
  distinct : (state.pointIds org_id).Nodup

structure SameServices (state reached : IndexState Vector) : Prop where
  storeUp : reached.storeUp = state.storeUp
  embeddingUp : reached.embeddingUp = state.embeddingUp
  now : reached.now = state.now
  cache : state.embeddingUp = false → reached.cache = state.cache

theorem SameServices.refl (state : IndexState Vector) : SameServices state state :=
  ⟨rfl, rfl, rfl, fun _ => rfl⟩

structure Moved (services : IndexServices Vector) (org_id : String)
    (state reached : IndexState Vector) : Prop where
  sound : Sound services org_id reached
  later : Later services org_id state reached
  same : SameServices state reached

theorem Moved.refl (sound : Sound services org_id state) : Moved services org_id state state :=
  ⟨sound, .refl state, .refl state⟩

theorem contents_setCollection (points : Collection Vector) (state : IndexState Vector) :
    (QdrantVectorStore.setCollection org_id points state).contents org_id = contentsOf points := by
  rw [IndexState.contents, points_setCollection]

theorem Moved.filtered (sound : Sound services org_id state)
    (keep : String × StoredPoint Vector → Bool) :
    Moved services org_id state
      (QdrantVectorStore.setCollection org_id ((state.points org_id).filter keep) state) := by
  have sublist : ((state.points org_id).filter keep).Sublist (state.points org_id) :=
    List.filter_sublist
  refine ⟨⟨?_, ?_⟩, Later.of_contents rfl ?_, rfl, rfl, rfl, fun _ => rfl⟩
  · refine fresh_of_points services sound.fresh (Eq.refl state.minted) ?_
    intro id among
    rw [IndexState.pointIds, points_setCollection] at among
    exact (sublist.map Prod.fst).subset among
  · rw [IndexState.pointIds, points_setCollection]
    exact sound.distinct.sublist (sublist.map Prod.fst)
  · intro entry among
    rw [contents_setCollection] at among
    exact (sublist.map _).subset among

variable {vectors : List Vector}

section Sound

variable {value : Unit} (sound : Sound services org_id state)

include sound

theorem Moved.embedded {values : List Value}
    (done : Embedder.embedMany services values state = .ok (vectors, reached)) :
    Moved services org_id state reached ∧ reached.collections = state.collections := by
  obtain ⟨-, collections, minted⟩ := Embedder.embedMany_points done
  have points : reached.points org_id = state.points org_id := by
    rw [IndexState.points, QdrantVectorStore.collection, collections]
    rfl
  refine ⟨⟨⟨fresh_of_collections services sound.fresh minted collections, ?_⟩,
    Later.of_contents minted ?_, ?_⟩, collections⟩
  · rw [IndexState.pointIds, points]
    exact sound.distinct
  · intro entry among
    rwa [IndexState.contents, points] at among
  · unfold Embedder.embedMany at done
    rw [bind_eq_ok] at done
    obtain ⟨texts, -, done⟩ := done
    simp only at done
    split_ifs at done with cached up
    · cases done
      exact .refl state
    · cases done
      exact ⟨rfl, rfl, rfl, fun down => absurd up (by simp [down])⟩

theorem Moved.stored {payloads : List (Dict Value)} (paired : vectors.length = payloads.length)
    (done : QdrantVectorStore.upsert services org_id vectors payloads none state =
      .ok (value, reached)) : Moved services org_id state reached := by
  obtain ⟨added, points, -, ids, fresh⟩ :=
    upsert_new services sound.fresh paired done
  have stored := upsertPoints_ok done
  have minted : reached.minted = state.minted + vectors.length := by rw [stored]; rfl
  refine ⟨⟨fresh, ?_⟩, ⟨by omega, ?_⟩, by rw [stored]; exact ⟨rfl, rfl, rfl, fun _ => rfl⟩⟩
  · rw [IndexState.pointIds, stored, points_setCollection]
    exact Dict.nodup_merge (state.points org_id) _ sound.distinct
  · intro entry among
    rw [IndexState.contents, points] at among
    rw [contentsOf, Dict.mapValues, List.map_append, List.mem_append] at among
    refine among.imp (fun old => old) fun new => ?_
    obtain ⟨point, member, rfl⟩ := List.mem_map.mp new
    have named : point.1 ∈ added.map Prod.fst := List.mem_map_of_mem member
    rw [ids] at named
    obtain ⟨index, inside, same⟩ := List.mem_map.mp named
    have within := List.mem_range.mp inside
    exact ⟨state.minted + index, by omega, by omega, same.symm⟩

theorem rewritten {points : List StalePoint} {target_version : String}
    (paired : vectors.length = points.length) (some : points ≠ [])
    (read : ∀ point ∈ points, Snapshot services org_id state point)
    (there : ∀ point ∈ points, point.1 ∈ state.pointIds org_id)
    (done : QdrantVectorStore.upsert services org_id vectors
      (points.map fun point => MigrationService.relabelled target_version point.2)
      (Option.some (points.map Prod.fst)) state = .ok (value, reached)) :
    Moved services org_id state reached ∧
      (QdrantVectorStore.collection org_id reached).map contentsOf =
        (QdrantVectorStore.collection org_id state).map contentsOf ∧
      reached.minted = state.minted := by
  -- A migration that finds its points writes what was there but for the versions.
  have stored := upsertPoints_ok done
  have written : contentsOf (QdrantVectorStore.zipPoints (points.map Prod.fst) vectors
      (points.map fun point => MigrationService.relabelled target_version point.2)) =
      points.map fun point => (point.1, unlabelled point.2) := by
    rw [contentsOf_zipPoints _ _ _ (by simpa using paired), List.map_map, List.zip_map']
    apply List.map_congr_left
    intro point _
    simp [unlabelled_relabelled]
  have same : reached.contents org_id = state.contents org_id := by
    rw [stored, contents_setCollection, contentsOf_merge, written]
    apply Dict.merge_alike
    · intro entry member
      obtain ⟨point, among, rfl⟩ := List.mem_map.mp member
      change point.1 ∈ (state.contents org_id).map Prod.fst
      rw [contents_keys]
      exact there point among
    · intro entry member other was
      obtain ⟨point, among, rfl⟩ := List.mem_map.mp member
      exact (read point among).alike other was
  have ids : reached.pointIds org_id = state.pointIds org_id := by
    rw [← contents_keys, same, contents_keys]
  have minted : reached.minted = state.minted := by rw [stored]; rfl
  refine ⟨⟨⟨fresh_of_points services sound.fresh minted (by rw [ids]; exact fun _ was => was), ?_⟩,
    Later.of_contents minted (by rw [same]; exact fun _ was => was), ?_⟩, ?_, minted⟩
  · rw [ids]
    exact sound.distinct
  · rw [stored]
    exact ⟨rfl, rfl, rfl, fun _ => rfl⟩
  · have now : QdrantVectorStore.collection org_id reached = Option.some (reached.points org_id) := by
      rw [stored, points_setCollection,
        collection_setCollection]
    cases before : QdrantVectorStore.collection org_id state with
    | none =>
      obtain ⟨point, rest, rfl⟩ := List.exists_cons_of_ne_nil some
      have was := there point (List.mem_cons_self ..)
      rw [IndexState.pointIds, IndexState.points, before] at was
      cases was
    | some known =>
      rw [now, Option.map_some, Option.map_some]
      congr 1
      change reached.contents org_id = contentsOf known
      rw [same, IndexState.contents, IndexState.points, before]
      rfl

end Sound

def atEnd : IndexCall Vector → Bool
  | .finished _ => true
  | _ => false

def view (org_id : String) (state : IndexState Vector) : Option (Dict (Dict Value)) :=
  (QdrantVectorStore.collection org_id state).map contentsOf

structure Stepped (services : IndexServices Vector) (org_id : String) (process : IndexCall Vector)
    (state : IndexState Vector) (next : IndexCall Vector) (reached : IndexState Vector) : Prop where
  progress : Progress services org_id reached next
  moved : Moved services org_id state reached
  silent : migrates process = true →
    view org_id reached = view org_id state ∧ reached.minted = state.minted
  kind : migrates next = migrates process ∨ atEnd next = true

theorem view_of_collections (same : reached.collections = state.collections) :
    view org_id reached = view org_id state := by
  rw [view, QdrantVectorStore.collection, same]
  rfl

theorem Stepped.failed (sound : Sound services org_id state) (result : Except PyError IndexReply) :
    Stepped services org_id process state (.finished result) state :=
  ⟨.finished result, .refl sound, fun _ => ⟨rfl, rfl⟩, .inr rfl⟩

theorem scrolled {state reached : IndexState Vector} (sound : Sound services org_id state)
    {current_version : String} {stale : List StalePoint}
    (done : QdrantVectorStore.scrollStaleChunks org_id current_version state =
      .ok (stale, reached)) :
    Moved services org_id state reached ∧
      (view org_id reached = view org_id state ∧ reached.minted = state.minted) ∧
      ∀ point ∈ stale, Snapshot services org_id reached point := by
  obtain ⟨points, there, -, same⟩ := onCollection_ok done
  obtain ⟨-, read⟩ := QdrantVectorStore.scrollStaleChunks_ok done
  have known : state.points org_id = points := by rw [IndexState.points, there]; rfl
  have ids : reached.pointIds org_id = state.pointIds org_id := by
    rw [IndexState.pointIds, same, points_setCollection, IndexState.pointIds, known]
  have contents : reached.contents org_id = state.contents org_id := by
    rw [same, contents_setCollection, IndexState.contents, known]
  have minted : reached.minted = state.minted := by rw [same]; rfl
  have fresh : reached.Fresh services org_id :=
    fresh_of_points services sound.fresh minted (by rw [ids]; exact fun _ was => was)
  refine ⟨⟨⟨fresh, by rw [ids]; exact sound.distinct⟩,
    Later.of_contents minted (by rw [contents]; exact fun _ was => was),
    by rw [same]; exact ⟨rfl, rfl, rfl, fun _ => rfl⟩⟩, ⟨?_, minted⟩, ?_⟩
  · rw [view, view, same, collection_setCollection, there]
  · intro point member
    rw [read] at member
    obtain ⟨stored, among, rfl⟩ := List.mem_map.mp member
    have within := List.mem_of_mem_filter among
    refine ⟨?_, ?_⟩
    · intro later past equal
      apply fresh.unused later past
      rw [equal, ids]
      exact List.mem_map_of_mem within
    · -- The ids are distinct, so that the payload is that of the point which was read.
      intro payload entry
      rw [contents] at entry
      obtain ⟨other, here, equal⟩ := List.mem_map.mp entry
      obtain ⟨sameId, rfl⟩ := Prod.mk.injEq .. ▸ equal
      have one : other = stored :=
        List.inj_on_of_nodup_map sound.distinct here within sameId
      rw [one]

theorem startMigration_progress (request : ReEmbedOrgRequest) (target_version : String)
    (stale : List StalePoint) (org : request.org_id = org_id)
    (read : ∀ point ∈ stale, Snapshot services org_id state point) :
    Progress services org_id state (IndexCall.startMigration request target_version stale) ∧
      (migrates (IndexCall.startMigration request target_version stale : IndexCall Vector) = true ∨
        atEnd (IndexCall.startMigration request target_version stale : IndexCall Vector) =
          true) := by
  unfold IndexCall.startMigration
  split_ifs with none
  · exact ⟨.finished _, .inr rfl⟩
  · cases grouped : MigrationService.groupByDocument stale with
    | error error => exact ⟨.finished _, .inr rfl⟩
    | ok groups =>
      refine ⟨.reembed _ org ?_, .inl rfl⟩
      intro points member point among
      obtain ⟨group, within, rfl⟩ := List.mem_map.mp member
      exact read point (MigrationService.mem_groupByDocument stale groups grouped group within point among)

theorem Progress.advance {next : IndexCall Vector} (sound : Sound services org_id state)
    (progress : Progress services org_id state process)
    (there : ∀ migration points vectors, process = .rewrite migration points vectors →
      ∀ point ∈ points, point.1 ∈ state.pointIds org_id)
    (advanced : process.advance services state = some (next, reached)) :
    Stepped services org_id process state next reached := by
  cases progress with
  | begun _ ofOrg =>
    cases ofOrg with
    | ingest request embedding_version passes chunks org cut =>
      simp only [IndexCall.advance, Option.some.injEq] at advanced
      rw [org] at advanced
      rcases done : QdrantVectorStore.deleteByDocument org_id request.document_id state with
        error | ⟨value, after⟩ <;> rw [done] at advanced <;> cases advanced
      · exact .failed sound _
      · obtain rfl := QdrantVectorStore.deleteByDocument_ok done
        exact ⟨.embed request chunks org, .filtered sound _, by rintro ⟨⟩, .inl rfl⟩
    | delete request org =>
      simp only [IndexCall.advance, Option.some.injEq, Prod.mk.injEq] at advanced
      obtain ⟨rfl, rfl⟩ := advanced
      rw [org]
      refine ⟨.finished _, ?_, by rintro ⟨⟩, .inr rfl⟩
      rcases @QdrantVectorStore.deleteByDocuments_cases _ org_id state request.document_ids with
        same | same
      · rw [same]
        exact .refl sound
      · rw [same]
        exact .filtered sound _
    | migrate request org =>
      simp only [IndexCall.advance, Option.some.injEq] at advanced
      rw [org] at advanced
      rcases done : QdrantVectorStore.scrollStaleChunks org_id
          (MigrationService.targetVersion request state.embedding_version) state with
        error | ⟨stale, after⟩ <;> rw [done] at advanced <;> cases advanced
      · exact .failed sound _
      · obtain ⟨moved, same, read⟩ := scrolled sound done
        obtain ⟨progress, kind⟩ := startMigration_progress request
          (MigrationService.targetVersion request state.embedding_version) stale org read
        exact ⟨progress, moved, fun _ => same, kind⟩
  | embed request chunks org =>
    simp only [IndexCall.advance, Option.some.injEq] at advanced
    rcases done : Embedder.embedMany services
        (chunks.map fun chunk => (chunk.lookup "text").getD .none) state with
      error | ⟨vectors, after⟩ <;> rw [done] at advanced <;> cases advanced
    · exact .failed sound _
    · have counted := (Embedder.embedMany_points done).1
      rw [List.length_map] at counted
      exact ⟨.store request chunks vectors org counted, (Moved.embedded sound done).1, by rintro ⟨⟩, .inl rfl⟩
  | store request chunks vectors org paired =>
    simp only [IndexCall.advance, Option.some.injEq] at advanced
    rw [org] at advanced
    rcases done : QdrantVectorStore.upsert services org_id vectors chunks none state with
      error | ⟨value, after⟩ <;> rw [done] at advanced <;> cases advanced
    · exact .failed sound _
    · exact ⟨.finished _, .stored sound paired done, by rintro ⟨⟩, .inr rfl⟩
  | reembed migration org read =>
    obtain ⟨org_id', target_version, found, re_embedded, errors, rest⟩ := migration
    cases rest with
    | nil =>
      cases advanced
      exact .failed sound _
    | cons points rest =>
      have others : ∀ points ∈ rest, ∀ point ∈ points, Snapshot services org_id state point :=
        fun points member => read points (List.mem_cons_of_mem _ member)
      simp only [IndexCall.advance] at advanced
      split_ifs at advanced with some
      · rcases done : Embedder.embedMany services (MigrationService.textsOf points) state with
          error | ⟨vectors, after⟩ <;> rw [done] at advanced <;> cases advanced
        · exact ⟨.reembed _ org others, .refl sound, fun _ => ⟨rfl, rfl⟩, .inl rfl⟩
        · obtain ⟨moved, collections⟩ := Moved.embedded sound done
          have counted := (Embedder.embedMany_points done).1
          rw [MigrationService.textsOf, List.length_map] at counted
          have nonempty : points ≠ [] := by
            rintro rfl
            cases some
          exact ⟨.rewrite _ points vectors org counted nonempty
              (fun point among =>
                (read points (List.mem_cons_self ..) point among).later moved.later)
              fun points member point among => (others points member point among).later moved.later,
            moved,
            fun _ => ⟨view_of_collections collections, (Embedder.embedMany_points done).2.2⟩,
            .inl rfl⟩
      · cases advanced
        exact ⟨.reembed _ org others, .refl sound, fun _ => ⟨rfl, rfl⟩, .inl rfl⟩
  | rewrite migration points vectors org paired some now read =>
    simp only [IndexCall.advance] at advanced
    rw [org] at advanced
    rcases done : QdrantVectorStore.upsert services org_id vectors
        (points.map fun point => MigrationService.relabelled migration.target_version point.2)
        (Option.some (points.map Prod.fst)) state with
      error | ⟨value, after⟩ <;> rw [done] at advanced <;> cases advanced
    · exact ⟨.reembed _ org read, .refl sound, fun _ => ⟨rfl, rfl⟩, .inl rfl⟩
    · obtain ⟨moved, same⟩ := rewritten sound paired some now (there _ _ _ rfl) done
      exact ⟨.reembed _ rfl fun points member point among =>
          (read points member point among).later moved.later, moved, fun _ => same, .inl rfl⟩
  | finished result => cases advanced

structure Twin (org_id : String) (state other : IndexState Vector) : Prop where
  view : view org_id state = view org_id other
  minted : state.minted = other.minted
  storeUp : state.storeUp = other.storeUp
  embeddingUp : state.embeddingUp = other.embeddingUp
  now : state.now = other.now
  cache : state.embeddingUp = false → state.cache = other.cache

inductive Like (org_id : String) : IndexCall Vector → IndexCall Vector → Prop where
  | process (request : ProcessDocumentRequest) (chunks : List (Dict Value))
      (org : request.org_id = org_id) : Like org_id (.process request chunks) (.process request chunks)
  | embed (request : ProcessDocumentRequest) (chunks : List (Dict Value))
      (org : request.org_id = org_id) : Like org_id (.embed request chunks) (.embed request chunks)
  | store (request : ProcessDocumentRequest) (chunks : List (Dict Value))
      (vectors others : List Vector) (org : request.org_id = org_id)
      (paired : vectors.length = chunks.length) (paired' : others.length = chunks.length) :
      Like org_id (.store request chunks vectors) (.store request chunks others)
  | delete (request : DeleteScrapedDocumentsRequest) (org : request.org_id = org_id) :
      Like org_id (.deleteScraped request) (.deleteScraped request)
  | finished (result other : Except PyError IndexReply) :
      Like org_id (.finished result) (.finished other)

variable {other : IndexState Vector}

theorem Twin.silent (twin : Twin org_id state other) (moved : Moved services org_id state reached)
    (minted : reached.minted = state.minted)
    (same : Migrating.view org_id reached = Migrating.view org_id state) :
    Twin org_id reached other where
  view := same.trans twin.view
  minted := minted.trans twin.minted
  storeUp := moved.same.storeUp.trans twin.storeUp
  embeddingUp := moved.same.embeddingUp.trans twin.embeddingUp
  now := moved.same.now.trans twin.now
  cache down := by
    have before : state.embeddingUp = false := moved.same.embeddingUp.symm.trans down
    rw [moved.same.cache before, twin.cache before]

theorem view_setCollection (points : Collection Vector) (state : IndexState Vector) :
    view org_id (QdrantVectorStore.setCollection org_id points state) = some (contentsOf points) := by
  rw [view, collection_setCollection]
  rfl

theorem contents_view (state : IndexState Vector) :
    state.contents org_id = (view org_id state).getD [] := by
  rw [IndexState.contents, IndexState.points, view]
  cases QdrantVectorStore.collection org_id state <;> rfl

section Twin

variable (twin : Twin org_id state other)

include twin

theorem Twin.set {points points' : Collection Vector}
    (same : contentsOf points = contentsOf points') :
    Twin org_id (QdrantVectorStore.setCollection org_id points state)
      (QdrantVectorStore.setCollection org_id points' other) where
  view := by rw [view_setCollection, view_setCollection, same]
  minted := twin.minted
  storeUp := twin.storeUp
  embeddingUp := twin.embeddingUp
  now := twin.now
  cache := twin.cache

theorem Twin.contents : contentsOf (state.points org_id) = contentsOf (other.points org_id) := by
  have one := @contents_view _ org_id state
  have two := @contents_view _ org_id other
  rw [twin.view, ← two] at one
  exact one

theorem Twin.filtered (keep : Dict Value → Bool)
    (blind : ∀ payload, keep (unlabelled payload) = keep payload) :
    contentsOf ((state.points org_id).filter fun point => keep point.2.payload) =
      contentsOf ((other.points org_id).filter fun point => keep point.2.payload) := by
  rw [contentsOf_filter _ keep blind, contentsOf_filter _ keep blind, twin.contents]

theorem Twin.onCollection {α : Type} (body : Collection Vector → α × Collection Vector) :
    (∃ error, QdrantVectorStore.onCollection org_id body state = .error error ∧
        QdrantVectorStore.onCollection org_id body other = .error error) ∨
      QdrantVectorStore.onCollection org_id body state =
          .ok ((body (state.points org_id)).1,
            QdrantVectorStore.setCollection org_id (body (state.points org_id)).2 state) ∧
        QdrantVectorStore.onCollection org_id body other =
          .ok ((body (other.points org_id)).1,
            QdrantVectorStore.setCollection org_id (body (other.points org_id)).2 other) := by
  -- Either request on the collections fails as the other does, or both are answered.
  unfold QdrantVectorStore.onCollection
  rw [twin.storeUp]
  by_cases up : other.storeUp = true
  · rw [if_pos up, if_pos up]
    have same := twin.view
    unfold Migrating.view at same
    cases one : QdrantVectorStore.collection org_id state with
    | none =>
      cases two : QdrantVectorStore.collection org_id other with
      | none => exact .inl ⟨_, rfl, rfl⟩
      | some points =>
        rw [one, two] at same
        cases same
    | some points =>
      cases two : QdrantVectorStore.collection org_id other with
      | none =>
        rw [one, two] at same
        cases same
      | some points' =>
        right
        rw [IndexState.points, IndexState.points, one, two]
        exact ⟨rfl, rfl⟩
  · rw [if_neg up, if_neg up]
    exact .inl ⟨_, rfl, rfl⟩

theorem Twin.deleteByDocuments (document_ids : List String) :
    Twin org_id (QdrantVectorStore.deleteByDocuments org_id document_ids state).2
      (QdrantVectorStore.deleteByDocuments org_id document_ids other).2 := by
  have blind (payload : Dict Value) :
      (!document_ids.any fun id => ofDocument id (unlabelled payload)) =
        !document_ids.any fun id => ofDocument id payload := by
    simp only [ofDocument_unlabelled]
  have same := twin.filtered
    (fun payload => !document_ids.any fun id => ofDocument id payload) blind
  have views := twin.view
  unfold QdrantVectorStore.deleteByDocuments
  unfold Migrating.view at views
  rw [twin.storeUp]
  split_ifs
  · exact twin
  · cases one : QdrantVectorStore.collection org_id state with
    | none =>
      cases two : QdrantVectorStore.collection org_id other with
      | none => exact twin
      | some points =>
        rw [one, two] at views
        cases views
    | some points =>
      cases two : QdrantVectorStore.collection org_id other with
      | none =>
        rw [one, two] at views
        cases views
      | some points' =>
        rw [IndexState.points, IndexState.points, one, two] at same
        exact twin.set same

end Twin

theorem Twin.embedMany {state other : IndexState Vector} (twin : Twin org_id state other)
    (values : List Value) :
    (∃ error, Embedder.embedMany services values state = .error error ∧
        Embedder.embedMany services values other = .error error) ∨
      ∃ vectors reached vectors' reached',
        Embedder.embedMany services values state = .ok (vectors, reached) ∧
        Embedder.embedMany services values other = .ok (vectors', reached') ∧
        vectors.length = values.length ∧ vectors'.length = values.length ∧
        Twin org_id reached reached' := by
  cases read : values.mapM Embedder.textOf with
  | error error =>
    left
    exact ⟨error, by simp only [Embedder.embedMany, read]; rfl,
      by simp only [Embedder.embedMany, read]; rfl⟩
  | ok texts =>
    have shape (state : IndexState Vector) : Embedder.embedMany services values state =
        if (texts.filter fun text => (Embedder.cached services state text).isNone).isEmpty then
          .ok (texts.map (Embedder.vectorOf services state), state)
        else if state.embeddingUp then
          .ok (texts.map (Embedder.vectorOf services state),
            Embedder.writeCache services
              (texts.filter fun text => (Embedder.cached services state text).isNone) state)
        else .error ⟨"HTTPStatusError", "502 Bad Gateway"⟩ := by
      simp only [Embedder.embedMany, read]
      rfl
    have counted : values.length = texts.length := by
      rw [Embedder.mapM_textOf_ok read, List.length_map]
    by_cases up : other.embeddingUp = true
    · -- With the embedding service at hand, neither can fail.
      right
      have answered (state : IndexState Vector) (available : state.embeddingUp = true) :
          ∃ vectors reached, Embedder.embedMany services values state = .ok (vectors, reached) ∧
            vectors.length = values.length ∧ ∃ cache, reached = { state with cache } := by
        rw [shape state]
        split_ifs with all
        · exact ⟨_, _, rfl, by simp [counted], state.cache, rfl⟩
        · exact ⟨_, _, rfl, by simp [counted], _, rfl⟩
      obtain ⟨vectors, reached, done, length, cache, rfl⟩ :=
        answered state (twin.embeddingUp.trans up)
      obtain ⟨vectors', reached', done', length', cache', rfl⟩ := answered other up
      refine ⟨_, _, _, _, done, done', length, length', twin.view, twin.minted, twin.storeUp,
        twin.embeddingUp, twin.now, fun down => ?_⟩
      rw [twin.embeddingUp.trans up] at down
      cases down
    · have down : other.embeddingUp = false := by simpa using up
      have cached : Embedder.cached services state = Embedder.cached services other := by
        funext text
        rw [Embedder.cached, Embedder.cached, twin.cache (twin.embeddingUp.trans down), twin.now]
      have down' : ¬state.embeddingUp = true := fun up' => up (twin.embeddingUp.symm.trans up')
      rw [shape state, shape other, cached, if_neg up, if_neg down']
      split_ifs with all
      · right
        exact ⟨_, _, _, _, rfl, rfl, by simp [counted], by simp [counted], twin⟩
      · exact .inl ⟨_, rfl, rfl⟩

theorem Twin.upsert {state other : IndexState Vector} (twin : Twin org_id state other)
    {vectors others : List Vector} {payloads : List (Dict Value)}
    (paired : vectors.length = payloads.length) (paired' : others.length = payloads.length) :
    (∃ error, QdrantVectorStore.upsert services org_id vectors payloads none state = .error error ∧
        QdrantVectorStore.upsert services org_id others payloads none other = .error error) ∨
      ∃ reached reached',
        QdrantVectorStore.upsert services org_id vectors payloads none state = .ok ((), reached) ∧
        QdrantVectorStore.upsert services org_id others payloads none other = .ok ((), reached') ∧
        Twin org_id reached reached' := by
  simp only [QdrantVectorStore.upsert, QdrantVectorStore.upsertPoints]
  by_cases up : state.storeUp = true
  · right
    rw [if_pos up, if_pos (twin.storeUp.symm.trans up)]
    refine ⟨_, _, rfl, rfl, ?_⟩
    have counted : vectors.length = others.length := paired.trans paired'.symm
    have minted : state.minted + vectors.length = other.minted + others.length := by
      rw [twin.minted, counted]
    have grown : Twin org_id { state with minted := state.minted + vectors.length }
        { other with minted := other.minted + others.length } :=
      ⟨twin.view, minted, twin.storeUp, twin.embeddingUp, twin.now, twin.cache⟩
    apply grown.set
    rw [contentsOf_merge, contentsOf_merge, contentsOf_zipPoints _ _ _ paired,
      contentsOf_zipPoints _ _ _ paired', counted, twin.minted]
    change Dict.merge (contentsOf (state.points org_id)) _ =
      Dict.merge (contentsOf (other.points org_id)) _
    rw [twin.contents]
  · left
    have down : ¬other.storeUp = true := fun other_up => up (twin.storeUp.trans other_up)
    rw [if_neg up, if_neg down]
    exact ⟨_, rfl, rfl⟩

theorem Like.advance {process' next : IndexCall Vector} (like : Like org_id process process')
    (twin : Twin org_id state other)
    (advanced : process.advance services state = some (next, reached)) :
    ∃ next' reached', process'.advance services other = some (next', reached') ∧
      Like org_id next next' ∧ Twin org_id reached reached' := by
  cases like with
  | process request chunks org =>
    simp only [IndexCall.advance, Option.some.injEq] at advanced ⊢
    rw [org] at advanced ⊢
    rcases twin.onCollection fun points => ((), points.filter fun point =>
      !ofDocument request.document_id point.2.payload) with ⟨error, one, two⟩ | ⟨one, two⟩
    · rw [QdrantVectorStore.deleteByDocument, one] at advanced
      rw [QdrantVectorStore.deleteByDocument, two]
      cases advanced
      exact ⟨_, _, rfl, .finished _ _, twin⟩
    · rw [QdrantVectorStore.deleteByDocument, one] at advanced
      rw [QdrantVectorStore.deleteByDocument, two]
      cases advanced
      refine ⟨_, _, rfl, .embed request chunks org, twin.set ?_⟩
      apply twin.filtered fun payload => !ofDocument request.document_id payload
      intro payload
      rw [ofDocument_unlabelled]
  | embed request chunks org =>
    simp only [IndexCall.advance, Option.some.injEq] at advanced ⊢
    rcases @Twin.embedMany _ services org_id state other twin
        (chunks.map fun chunk => (chunk.lookup "text").getD .none) with
      ⟨error, one, two⟩ | ⟨vectors, after, vectors', after', one, two, counted, counted', twins⟩
    · rw [one] at advanced
      rw [two]
      cases advanced
      exact ⟨_, _, rfl, .finished _ _, twin⟩
    · rw [one] at advanced
      rw [two]
      cases advanced
      rw [List.length_map] at counted counted'
      exact ⟨_, _, rfl, .store request chunks _ _ org counted counted', twins⟩
  | store request chunks vectors others org paired paired' =>
    simp only [IndexCall.advance, Option.some.injEq] at advanced ⊢
    rw [org] at advanced ⊢
    rcases @Twin.upsert _ services org_id state other twin _ _ _ paired paired' with
      ⟨error, one, two⟩ | ⟨after, after', one, two, twins⟩
    · rw [one] at advanced
      rw [two]
      cases advanced
      exact ⟨_, _, rfl, .finished _ _, twin⟩
    · rw [one] at advanced
      rw [two]
      cases advanced
      exact ⟨_, _, rfl, .finished _ _, twins⟩
  | delete request org =>
    simp only [IndexCall.advance, Option.some.injEq, Prod.mk.injEq] at advanced ⊢
    obtain ⟨rfl, rfl⟩ := advanced
    rw [org]
    exact ⟨_, _, ⟨rfl, rfl⟩, .finished _ _, twin.deleteByDocuments request.document_ids⟩
  | finished result other' => cases advanced

variable {jobs : κ → OrgJob Vector org_id}

structure Tracked (services : IndexServices Vector) (jobs : κ → OrgJob Vector org_id)
    (pool : IndexPool κ Vector) : Prop where
  sound : Sound services org_id pool.state
  progress : ∀ call process, pool.calls call = some process →
    Progress services org_id pool.state process
  kind : ∀ call process, pool.calls call = some process →
    migrates process = migrating jobs call ∨ atEnd process = true

theorem Later.trans {middle : IndexState Vector} (first : Later services org_id state middle)
    (second : Later services org_id middle reached) : Later services org_id state reached := by
  have one := first.minted
  have two := second.minted
  refine ⟨by omega, fun entry among => ?_⟩
  rcases second.entries entry among with before | ⟨given, new, old, same⟩
  · rcases first.entries entry before with earlier | ⟨given, new, old, same⟩
    · exact .inl earlier
    · exact .inr ⟨given, new, by omega, same⟩
  · exact .inr ⟨given, by omega, old, same⟩

omit [DecidableEq κ] in
theorem progress_start (jobs : κ → OrgJob Vector org_id) (call : κ) (state : IndexState Vector) :
    Progress services org_id state (start jobs call) :=
  .begun _ (jobs call).2

variable {pool : IndexPool κ Vector}

theorem Tracked.turn (tracked : Tracked services jobs pool) (call : κ)
    (careful : ∀ process, pool.calls call = some process → Careful org_id pool call process) :
    let reached := Pool.turn (IndexCall.advance services) (start jobs) pool call
    Tracked services jobs reached ∧ Moved services org_id pool.state reached.state ∧
      (migrating jobs call = true → view org_id reached.state = view org_id pool.state ∧
        reached.state.minted = pool.state.minted) := by
  unfold Pool.turn
  split
  next unused =>
    exact ⟨⟨tracked.sound, Pool.put_forall _ (progress_start jobs call _) tracked.progress,
      Pool.put_forall _ (.inl rfl) tracked.kind⟩, .refl tracked.sound, fun _ => ⟨rfl, rfl⟩⟩
  next process running =>
    split
    next ended => exact ⟨tracked, .refl tracked.sound, fun _ => ⟨rfl, rfl⟩⟩
    next following state advanced =>
      have stepped := (tracked.progress call process running).advance tracked.sound
        (careful process running) advanced
      have kind := tracked.kind call process running
      have ongoing : atEnd process = false := by
        cases process <;> first | rfl | cases advanced
      rw [ongoing] at kind
      have same := kind.resolve_right nofun
      refine ⟨⟨stepped.moved.sound, ?_, Pool.put_forall _ (same ▸ stepped.kind) tracked.kind⟩,
        stepped.moved, fun own => stepped.silent (same.trans own)⟩
      exact Pool.put_forall _ stepped.progress fun other process' before =>
        (tracked.progress other process' before).later stepped.moved.later

structure Twins (jobs : κ → OrgJob Vector org_id) (pool other : IndexPool κ Vector) : Prop where
  state : Twin org_id pool.state other.state
  idle : ∀ call, migrating jobs call = false → pool.calls call = none → other.calls call = none
  running : ∀ call, migrating jobs call = false → ∀ process, pool.calls call = some process →
    ∃ process', other.calls call = some process' ∧ Like org_id process process'

omit [DecidableEq κ] in
theorem like_start (call : κ) (other : migrating jobs call = false) :
    Like org_id (start jobs call) (start jobs call) := by
  rcases found : jobs call with ⟨job, ofOrg⟩
  unfold migrating at other
  unfold start
  rw [found] at other ⊢
  cases ofOrg with
  | ingest request embedding_version passes chunks org cut => exact .process request chunks org
  | delete request org => exact .delete request org
  | migrate request org => cases other

theorem Twins.skip {other : IndexPool κ Vector} (tracked : Tracked services jobs pool)
    (twins : Twins jobs pool other) (call : κ) (own : migrating jobs call = true)
    (careful : ∀ process, pool.calls call = some process → Careful org_id pool call process) :
    Twins jobs (Pool.turn (IndexCall.advance services) (start jobs) pool call) other := by
  obtain ⟨-, moved, silent⟩ := tracked.turn call careful
  obtain ⟨same, minted⟩ := silent own
  have others (call' : κ) (kind : migrating jobs call' = false) :
      (Pool.turn (IndexCall.advance services) (start jobs) pool call).calls call' =
        pool.calls call' := by
    apply Pool.turn_other
    rintro rfl
    rw [own] at kind
    cases kind
  refine ⟨twins.state.silent moved minted same, ?_, ?_⟩
  · intro call' kind unused
    rw [others call' kind] at unused
    exact twins.idle call' kind unused
  · intro call' kind process running
    rw [others call' kind] at running
    exact twins.running call' kind process running

theorem Twins.turn {other : IndexPool κ Vector} (twins : Twins jobs pool other) (call : κ)
    (kind : migrating jobs call = false) :
    Twins jobs (Pool.turn (IndexCall.advance services) (start jobs) pool call)
      (Pool.turn (IndexCall.advance services) (start jobs) other call) := by
  have kept (process process' : IndexCall Vector) (state state' : IndexState Vector)
      (past past' : List (IndexState Vector)) (like : Like org_id process process')
      (twin : Twin org_id state state') :
      Twins jobs { state, past, calls := pool.put call process }
        { state := state', past := past', calls := other.put call process' } := by
    refine ⟨twin, ?_, ?_⟩
    · intro call' kind' unused
      by_cases same : call' = call
      · subst same
        simp [Pool.put] at unused
      · simp only [Pool.put, Function.update_of_ne same] at unused ⊢
        exact twins.idle call' kind' unused
    · intro call' kind' running started
      by_cases same : call' = call
      · subst same
        simp only [Pool.put, Function.update_self, Option.some.injEq] at started ⊢
        exact ⟨process', rfl, started ▸ like⟩
      · simp only [Pool.put, Function.update_of_ne same] at started ⊢
        exact twins.running call' kind' running started
  cases running : pool.calls call with
  | none =>
    have unused := twins.idle call kind running
    simp only [Pool.turn, running, unused]
    exact kept _ _ _ _ _ _ (like_start call kind) twins.state
  | some process =>
    obtain ⟨process', running', like⟩ := twins.running call kind process running
    simp only [Pool.turn, running, running']
    cases advanced : process.advance services pool.state with
    | none =>
      cases like with
      | finished result other' => exact twins
      | process request chunks org => cases advanced
      | embed request chunks org => cases advanced
      | store request chunks vectors others org paired paired' => cases advanced
      | delete request org => cases advanced
    | some reached =>
      obtain ⟨next, state⟩ := reached
      obtain ⟨next', state', advanced', like', twin⟩ := like.advance twins.state advanced
      rw [advanced']
      exact kept next next' state state' _ _ like' twin

theorem Tracked.play (tracked : Tracked services jobs pool) (turns : List κ)
    (careful : Pool.Permits (Careful org_id) (IndexCall.advance services) (start jobs)
      (turns.map .turn) pool) :
    Tracked services jobs
        (Pool.play (IndexCall.advance services) (start jobs) (turns.map .turn) pool) ∧
      Later services org_id pool.state
        (Pool.play (IndexCall.advance services) (start jobs) (turns.map .turn) pool).state := by
  induction turns generalizing pool with
  | nil => exact ⟨tracked, .refl pool.state⟩
  | cons call rest ih =>
    obtain ⟨now, careful⟩ := careful
    obtain ⟨tracked', moved, -⟩ := tracked.turn call now
    obtain ⟨final, later⟩ := ih tracked' careful
    exact ⟨final, moved.later.trans later⟩

theorem Twins.play {other : IndexPool κ Vector} (tracked : Tracked services jobs pool)
    (twins : Twins jobs pool other) (turns : List κ)
    (careful : Pool.Permits (Careful org_id) (IndexCall.advance services) (start jobs)
      (turns.map .turn) pool) :
    Twins jobs (Pool.play (IndexCall.advance services) (start jobs) (turns.map .turn) pool)
      (Pool.play (IndexCall.advance services) (start jobs)
        ((turns.filter fun call => !migrating jobs call).map .turn) other) := by
  induction turns generalizing pool other with
  | nil => exact twins
  | cons call rest ih =>
    obtain ⟨now, careful⟩ := careful
    obtain ⟨tracked', -, -⟩ := tracked.turn call now
    by_cases own : migrating jobs call = true
    · rw [List.filter_cons_of_neg (by simpa using own)]
      exact ih tracked' (twins.skip tracked call own now) careful
    · rw [Bool.not_eq_true] at own
      rw [List.filter_cons_of_pos (by simpa using own)]
      exact ih tracked' (twins.turn call own) careful

theorem absent_later (later : Later services org_id state reached) (id : String)
    (known : ∀ given, state.minted ≤ given → services.uuid given ≠ id)
    (absent : id ∉ state.pointIds org_id) : id ∉ reached.pointIds org_id := by
  intro among
  rw [← contents_keys] at among absent
  obtain ⟨entry, member, rfl⟩ := List.mem_map.mp among
  rcases later.entries entry member with before | ⟨given, new, -, same⟩
  · exact absent (List.mem_map_of_mem before)
  · exact known given new same.symm

end Steps

end Migrating

open Migrating in
/-- If every point that migrations write is still there, then apart from vectors and versions
the points are those that the other calls leave by themselves, and what was deleted stays so. -/
theorem migrations_change_versions_only {Vector κ : Type} [DecidableEq κ]
    (services : IndexServices Vector) (org_id : String) (jobs : κ → OrgJob Vector org_id)
    (state : IndexState Vector) (fresh : state.Fresh services org_id)
    (distinct : (state.pointIds org_id).Nodup) (turns : List κ)
    (careful : Pool.Permits (Migrating.Careful org_id) (IndexCall.advance services) (start jobs)
      (turns.map .turn) (Pool.idle state)) :
    (played services jobs state turns).state.contents org_id =
        (played services jobs state
          (turns.filter fun call => !migrating jobs call)).state.contents org_id ∧
      ∀ before between after id, turns = before ++ between ++ after →
        id ∈ (played services jobs state before).state.pointIds org_id →
        id ∉ (played services jobs state (before ++ between)).state.pointIds org_id →
        id ∉ (played services jobs state turns).state.pointIds org_id := by
  have tracked : Migrating.Tracked services jobs (Pool.idle state) :=
    ⟨⟨fresh, distinct⟩, nofun, nofun⟩
  constructor
  · have twins : Twins jobs (Pool.idle state) (Pool.idle state) :=
      ⟨⟨rfl, rfl, rfl, rfl, rfl, fun _ => rfl⟩, fun _ _ _ => rfl, nofun⟩
    exact (Twins.play tracked twins turns careful).state.contents
  · rintro before between after id rfl there gone
    rw [List.map_append, Pool.permits_append, List.map_append, Pool.permits_append] at careful
    obtain ⟨⟨first, second⟩, third⟩ := careful
    obtain ⟨atFirst, -⟩ := tracked.play before first
    obtain ⟨atSecond, grown⟩ := atFirst.play between second
    rw [← Pool.play_append, ← List.map_append] at atSecond grown
    rw [← List.map_append] at third
    obtain ⟨-, later⟩ := atSecond.play after third
    rw [← Pool.play_append, ← List.map_append] at later
    apply absent_later later id _ gone
    rintro given past rfl
    exact atFirst.sound.fresh.unused given (Nat.le_trans grown.minted past) there

open Migrating

/-- A page that the model before has embedded. -/
def agedIndex : IndexState Unit where
  collections := [("org_acme", [("a", ⟨(), [("text", .str "Open until six."),
    ("document_id", .str "page"), ("embedding_version", .str "v0")]⟩)])]
  minted := 2

def agedJobs (migration : Bool) : OrgJob Unit "acme" :=
  -- A migration, and the deletion of the page.
  if migration then ⟨.runMigration { org_id := "acme" }, .migrate _ rfl⟩
  else ⟨.deleteScraped { org_id := "acme", document_ids := ["page"] }, .delete _ rfl⟩

theorem agedIndex_fresh : agedIndex.Fresh plainServices "acme" where
  distinct := plainServices_distinct
  unused := by
    intro later past among
    have same : plainServices.uuid later = "a" := List.mem_singleton.mp among
    have equal : later = 1 := plainServices_distinct (same.trans rfl)
    rw [equal] at past
    exact absurd past (by decide)

theorem deleted_after_migration :
    (played plainServices agedJobs agedIndex [true, true, true, true, false, false]).state.contents
        "acme" =
      (played plainServices agedJobs agedIndex [false, false]).state.contents "acme" := by
  have careful : Pool.Permits (Migrating.Careful "acme") (IndexCall.advance plainServices)
      (start agedJobs) ([true, true, true, true, false, false].map .turn) (Pool.idle agedIndex) := by
    refine ⟨?_, ?_, ?_, ?_, ?_, ?_, trivial⟩ <;>
      rintro process ⟨⟩ migration points vectors ⟨⟩ point among
    rw [List.mem_singleton.mp among]
    exact List.mem_singleton_self _
  exact (migrations_change_versions_only plainServices "acme" agedJobs agedIndex agedIndex_fresh
    (List.nodup_singleton _) _ careful).1

/-- The page is deleted while its text is being embedded anew. -/
theorem page_resurrected :
    ¬∀ turns,
      (played plainServices agedJobs agedIndex turns).state.contents "acme" =
          (played plainServices agedJobs agedIndex
            (turns.filter fun call => !migrating agedJobs call)).state.contents "acme" ∧
        ∀ before between after id, turns = before ++ between ++ after →
          id ∈ (played plainServices agedJobs agedIndex before).state.pointIds "acme" →
          id ∉ (played plainServices agedJobs agedIndex (before ++ between)).state.pointIds "acme" →
          id ∉ (played plainServices agedJobs agedIndex turns).state.pointIds "acme" := by
  intro kept
  have gone := (kept [true, true, true, false, false, true]).2 [true, true, true] [false, false]
    [true] "a" rfl (by decide +kernel) (by decide +kernel)
  exact gone (by decide +kernel)

end HelpForge.Chatbot
