import HelpForge.Chatbot.Vectors.Migration
import HelpForge.Lib.Grouping

set_option autoImplicit false

namespace HelpForge.Chatbot

open Lib

structure EmbedRequest where
  org_id : String
  texts : List String
  metadata : List (Dict Value) := []

structure EmbedResponse where
  embedded : Nat
  status : String

/-- A call of the document service. -/
inductive Writer (Vector : Type) where
  | index (call : IndexCall Vector)
  | embedTexts (request : EmbedRequest)
  | storeTexts (request : EmbedRequest) (vectors : List Vector)
  | embedded (result : Except PyError EmbedResponse)

def DocumentService.textPayloads (request : EmbedRequest) : List (Dict Value) :=
  if !request.metadata.isEmpty && request.metadata.length == request.texts.length then
    request.metadata
  else request.texts.map fun _ => []

variable {other : String}

section Writers

variable {Vector : Type} (services : IndexServices Vector)

open QdrantVectorStore

def Writer.advance : Writer Vector → IndexState Vector → Option (Writer Vector × IndexState Vector)
  | .index call, state =>
    (call.advance services state).map fun (next, reached) => (.index next, reached)
  | .embedTexts request, state =>
    match Embedder.embedMany services (request.texts.map .str) state with
    | .ok (vectors, reached) => some (.storeTexts request vectors, reached)
    | .error error => some (.embedded (.error error), state)
  | .storeTexts request vectors, state =>
    match upsert services request.org_id vectors (DocumentService.textPayloads request) none
        state with
    | .ok (_, reached) =>
      some (.embedded (.ok { embedded := vectors.length, status := "success" }), reached)
    | .error error => some (.embedded (.error error), state)
  | .embedded _, _ => none

def Distinct (org_id : String) (state : IndexState Vector) : Prop :=
  (state.pointIds org_id).Nodup

variable {services} {org_id : String} {state reached : IndexState Vector}

theorem points_of_collection (same : collection org_id reached = collection org_id state) :
    reached.points org_id = state.points org_id := by
  rw [IndexState.points, same, IndexState.points]

theorem Distinct.of_collection (distinct : Distinct org_id state)
    (same : collection org_id reached = collection org_id state) : Distinct org_id reached := by
  rw [Distinct, IndexState.pointIds, points_of_collection same]
  exact distinct

theorem Distinct.setCollection (distinct : Distinct org_id state) {points : Collection Vector}
    (kept : (state.pointIds other).Nodup → (points.map Prod.fst).Nodup) :
    Distinct org_id (setCollection other points state) := by
  by_cases own : collectionName org_id = collectionName other
  · have found : collection org_id (QdrantVectorStore.setCollection other points state) =
        some points := by
      rw [collection, own]
      exact collection_setCollection points
    have before : state.pointIds other = state.pointIds org_id := by
      rw [IndexState.pointIds, IndexState.pointIds, IndexState.points, IndexState.points,
        collection, collection, own]
    rw [Distinct, IndexState.pointIds, IndexState.points, found]
    exact kept (before ▸ distinct)
  · apply distinct.of_collection
    rw [collection, QdrantVectorStore.setCollection, Dict.lookup_put, if_neg own]
    rfl

theorem Distinct.filtered (distinct : Distinct org_id state)
    (keep : String × StoredPoint Vector → Bool) :
    Distinct org_id (QdrantVectorStore.setCollection other ((state.points other).filter keep)
      state) := by
  apply distinct.setCollection
  intro before
  exact before.sublist (List.filter_sublist.map Prod.fst)

theorem Distinct.upsert (distinct : Distinct org_id state) {other : String}
    {vectors : List Vector} {payloads : List (Dict Value)} {ids : Option (List String)}
    {value : Unit}
    (done : QdrantVectorStore.upsert services other vectors payloads ids state =
      .ok (value, reached)) : Distinct org_id reached := by
  cases ids with
  | some ids =>
    rw [upsertPoints_ok done]
    apply distinct.setCollection
    exact fun before => Dict.nodup_merge _ _ before
  | none =>
    rw [upsertPoints_ok done]
    have counted : Distinct org_id { state with minted := state.minted + vectors.length } :=
      distinct
    apply counted.setCollection
    exact fun before => Dict.nodup_merge _ _ before

theorem Distinct.embedMany (distinct : Distinct org_id state) {values : List Value}
    {vectors : List Vector}
    (done : Embedder.embedMany services values state = .ok (vectors, reached)) :
    Distinct org_id reached := by
  obtain ⟨-, same, -⟩ := Embedder.embedMany_points done
  apply distinct.of_collection
  rw [collection, same]
  rfl

theorem Distinct.proceed {α : Type} {outcome : Except PyError (α × IndexState Vector)}
    {follow : α → IndexCall Vector} {next : IndexCall Vector} (distinct : Distinct org_id state)
    (kept : ∀ value after, outcome = .ok (value, after) → Distinct org_id after)
    (proceeded : IndexCall.proceed state outcome follow = (next, reached)) :
    Distinct org_id reached := by
  cases outcome with
  | error error =>
    cases proceeded
    exact distinct
  | ok result =>
    cases proceeded
    exact kept _ _ rfl

theorem Distinct.index (distinct : Distinct org_id state) {call next : IndexCall Vector}
    (advanced : call.advance services state = some (next, reached)) :
    Distinct org_id reached := by
  cases call with
  | process request chunks =>
    apply distinct.proceed _ (Option.some.inj advanced)
    intro value after done
    rw [deleteByDocument_ok done]
    exact distinct.filtered _
  | embed request chunks =>
    apply distinct.proceed _ (Option.some.inj advanced)
    exact fun value after done => distinct.embedMany done
  | store request chunks vectors =>
    apply distinct.proceed _ (Option.some.inj advanced)
    exact fun value after done => distinct.upsert done
  | upsertFaqs request =>
    rw [IndexCall.advance] at advanced
    split_ifs at advanced
    · cases advanced
      exact distinct
    · apply distinct.proceed _ (Option.some.inj advanced)
      exact fun value after done => distinct.embedMany done
  | storeFaqs request payloads vectors =>
    apply distinct.proceed _ (Option.some.inj advanced)
    exact fun value after done => distinct.upsert done
  | deleteScraped request =>
    simp only [IndexCall.advance, Option.some.injEq, Prod.mk.injEq] at advanced
    obtain ⟨-, rfl⟩ := advanced
    rcases @deleteByDocuments_cases _ request.org_id state request.document_ids with same | same
    · rw [same]
      exact distinct
    · rw [same]
      exact distinct.filtered _
  | runMigration request =>
    apply distinct.proceed _ (Option.some.inj advanced)
    intro value after done
    rw [(scrollStaleChunks_ok done).1]
    apply distinct.setCollection
    exact fun before => before
  | reembed migration =>
    rw [IndexCall.advance] at advanced
    split at advanced
    · cases advanced
      exact distinct
    · split_ifs at advanced
      · split at advanced
        · cases advanced
          exact distinct.embedMany ‹_›
        · cases advanced
          exact distinct
      · cases advanced
        exact distinct
  | rewrite migration points vectors =>
    rw [IndexCall.advance] at advanced
    split at advanced
    · cases advanced
      exact distinct.upsert ‹_›
    · cases advanced
      exact distinct
  | finished result => cases advanced

theorem Distinct.advance (distinct : Distinct org_id state) {writer next : Writer Vector}
    (advanced : writer.advance services state = some (next, reached)) :
    Distinct org_id reached := by
  cases writer with
  | index call =>
    obtain ⟨⟨following, after⟩, moved, same⟩ := Option.map_eq_some_iff.mp advanced
    cases same
    exact distinct.index moved
  | embedTexts request =>
    rw [Writer.advance] at advanced
    split at advanced
    · cases advanced
      exact distinct.embedMany ‹_›
    · cases advanced
      exact distinct
  | storeTexts request vectors =>
    rw [Writer.advance] at advanced
    split at advanced
    · cases advanced
      exact distinct.upsert ‹_›
    · cases advanced
      exact distinct
  | embedded result => cases advanced

end Writers

variable {stale : List StalePoint} {point : StalePoint}

namespace MigrationService

def sameDocument (one other : StalePoint) : Bool :=
  match keyOf one, keyOf other with
  | .ok first, .ok second => sameKey first second
  | _, _ => false

def hasText (points : List StalePoint) : Bool := (textsOf points).any Value.truthy

def textless (stale : List StalePoint) (point : StalePoint) : Bool :=
  !hasText (stale.filter (sameDocument point))

theorem sameKey_iff (one other : Value) :
    sameKey one other = true ↔
      (∃ text, one = .str text ∧ other = .str text) ∨ (one = .none ∧ other = .none) ∨
        (∃ name, one = .nonFinite name ∧ other = .nonFinite name) ∨
        ∃ value, sameKey.number one = some value ∧ sameKey.number other = some value := by
  cases one <;> cases other <;> simp [sameKey, sameKey.number] <;> exact eq_comm

theorem sameKey_symm (one other : Value) (same : sameKey one other = true) :
    sameKey other one = true := by
  rw [sameKey_iff] at same ⊢
  rcases same with ⟨text, first, second⟩ | ⟨first, second⟩ | ⟨name, first, second⟩ |
    ⟨value, first, second⟩
  · exact .inl ⟨text, second, first⟩
  · exact .inr (.inl ⟨second, first⟩)
  · exact .inr (.inr (.inl ⟨name, second, first⟩))
  · exact .inr (.inr (.inr ⟨value, second, first⟩))

theorem sameKey_trans (one middle other : Value) (first : sameKey one middle = true)
    (second : sameKey middle other = true) : sameKey one other = true := by
  rw [sameKey_iff] at first
  rcases first with ⟨text, rfl, rfl⟩ | ⟨rfl, rfl⟩ | ⟨name, rfl, rfl⟩ | ⟨value, left, right⟩
  · exact second
  · exact second
  · exact second
  · rw [sameKey_iff] at second
    rcases second with ⟨text, rfl, -⟩ | ⟨rfl, -⟩ | ⟨name, rfl, -⟩ | ⟨value', left', right'⟩
    · cases right
    · cases right
    · cases right
    · rw [right] at left'
      cases left'
      exact (sameKey_iff ..).mpr (.inr (.inr (.inr ⟨value, left, right'⟩)))

theorem sameKey_keyOf {key : Value} (named : keyOf point = .ok key) : sameKey key key = true := by
  unfold keyOf at named
  dsimp only at named
  generalize (if ((point.2.lookup "document_id").getD .none).truthy = true then
    (point.2.lookup "document_id").getD .none else .str point.1) = found at named
  rw [sameKey_iff]
  cases found with
  | list items => cases named
  | dict entries => cases named
  | none =>
    cases named
    exact .inr (.inl ⟨rfl, rfl⟩)
  | str text =>
    cases named
    exact .inl ⟨text, rfl, rfl⟩
  | nonFinite name =>
    cases named
    exact .inr (.inr (.inl ⟨name, rfl, rfl⟩))
  | bool value =>
    cases named
    exact .inr (.inr (.inr ⟨_, rfl, rfl⟩))
  | int value =>
    cases named
    exact .inr (.inr (.inr ⟨_, rfl, rfl⟩))
  | float value =>
    cases named
    exact .inr (.inr (.inr ⟨_, rfl, rfl⟩))

theorem addTo_eq (key : Value) (point : StalePoint) (groups : List (Value × List StalePoint)) :
    addTo key point groups = Grouping.add sameKey key point groups := by
  induction groups with
  | nil => rfl
  | cons first rest ih =>
    obtain ⟨other, points⟩ := first
    rw [addTo, Grouping.add, ih]

variable {groups : List (Value × List StalePoint)}

theorem groupByDocument_ok (grouped : groupByDocument stale = .ok groups) :
    ∃ entries : List (Value × StalePoint), entries.map Prod.snd = stale ∧
      (∀ entry ∈ entries, keyOf entry.2 = .ok entry.1) ∧
      groups = Grouping.group sameKey entries := by
  have general (rest : List StalePoint) (before : List (Value × List StalePoint))
      (read : rest.foldlM
        (fun groups point => do
          let key ← keyOf point
          return addTo key point groups) before = .ok groups) :
      ∃ entries : List (Value × StalePoint), entries.map Prod.snd = rest ∧
        (∀ entry ∈ entries, keyOf entry.2 = .ok entry.1) ∧
        groups = entries.foldl
          (fun groups entry => Grouping.add sameKey entry.1 entry.2 groups) before := by
    induction rest generalizing before with
    | nil =>
      cases read
      exact ⟨[], rfl, nofun, rfl⟩
    | cons point rest ih =>
      rw [List.foldlM_cons, bind_eq_ok] at read
      obtain ⟨next, added, read⟩ := read
      rw [bind_eq_ok] at added
      obtain ⟨key, named, same⟩ := added
      cases same
      obtain ⟨entries, listed, keys, folded⟩ := ih _ read
      refine ⟨(key, point) :: entries, by simp [listed], ?_, ?_⟩
      · intro entry among
        rcases List.mem_cons.mp among with rfl | later
        · exact named
        · exact keys entry later
      · rw [folded, addTo_eq]
        rfl
  exact general stale [] grouped

theorem group_documents (grouped : groupByDocument stale = .ok groups) :
    (∀ group ∈ groups, ∀ point ∈ group.2, group.2 = stale.filter (sameDocument point)) ∧
      ∀ point ∈ stale, ∃ group ∈ groups, point ∈ group.2 := by
  obtain ⟨entries, rfl, keys, rfl⟩ := groupByDocument_ok grouped
  have classes := Grouping.grouped sameKey_symm sameKey_trans
    fun entry among => sameKey_keyOf (keys entry among)
  constructor
  · intro group among point inside
    rw [classes.whole group among] at inside ⊢
    obtain ⟨key, alike, there⟩ := Grouping.mem_classOf.mp inside
    rw [Grouping.classOf_congr sameKey_symm sameKey_trans entries alike, Grouping.classOf,
      List.filter_map]
    congr 1
    apply List.filter_congr
    intro entry within
    simp [sameDocument, keys _ there, keys _ within]
  · intro point among
    obtain ⟨entry, there, rfl⟩ := List.mem_map.mp among
    obtain ⟨group, within, alike⟩ := classes.covered entry there
    refine ⟨group, within, ?_⟩
    rw [classes.whole group within]
    exact Grouping.mem_classOf.mpr ⟨entry.1, alike, there⟩

end MigrationService

section Alone

variable {Vector : Type} (services : IndexServices Vector) (org_id target_version : String)

open QdrantVectorStore MigrationService

def IndexState.payloads (state : IndexState Vector) : Option (Dict (Dict Value)) :=
  (collection org_id state).map (Dict.mapValues StoredPoint.payload)

def outdated (payload : Dict Value) : Bool :=
  !matchValue target_version (payload.lookup "embedding_version")

def staleOf (known : Dict (Dict Value)) : List StalePoint :=
  known.filter fun entry => outdated target_version entry.2

def written (groups : List (List StalePoint)) : List String :=
  ((groups.filter hasText).flatten).map Prod.fst

def brought (known : Dict (Dict Value)) (groups : List (List StalePoint)) : Dict (Dict Value) :=
  Dict.adjust (relabelled target_version) (written groups) known

/-- How far a migration has come with the groups that it has found. As long as nothing has gone
wrong, those that are done have the version. -/
inductive Along (known : Dict (Dict Value)) (groups : List (List StalePoint))
    (state : IndexState Vector) : IndexCall Vector → Prop where
  | reembed (migration : Migration) (org : migration.org_id = org_id)
      (target : migration.target_version = target_version)
      (faultless : migration.errors = 0 → ∃ done, groups = done ++ migration.rest ∧
        state.payloads org_id = some (brought target_version known done)) :
      Along known groups state (.reembed migration)
  | rewrite (migration : Migration) (points : List StalePoint) (vectors : List Vector)
      (org : migration.org_id = org_id) (target : migration.target_version = target_version)
      (paired : vectors.length = points.length)
      (faultless : migration.errors = 0 → ∃ done, groups = done ++ points :: migration.rest ∧
        hasText points = true ∧
        state.payloads org_id = some (brought target_version known done)) :
      Along known groups state (.rewrite migration points vectors)
  | finished (result : Except PyError IndexReply)
      (completed : ∀ response, result = .ok (.migrated response) → response.status = "completed" →
        state.payloads org_id = some (brought target_version known groups)) :
      Along known groups state (.finished result)

variable {services org_id target_version} {known : Dict (Dict Value)}
  {groups : List (List StalePoint)} {state reached : IndexState Vector} {call : IndexCall Vector}

theorem Along.of_payloads (along : Along org_id target_version known groups state call)
    (same : reached.payloads org_id = state.payloads org_id) :
    Along org_id target_version known groups reached call := by
  cases along with
  | reembed migration org target faultless =>
    apply Along.reembed migration org target
    rwa [same]
  | rewrite migration points vectors org target paired faultless =>
    apply Along.rewrite migration points vectors org target paired
    rwa [same]
  | finished result completed =>
    apply Along.finished result
    rwa [same]

theorem written_append (first second : List (List StalePoint)) :
    written (first ++ second) = written first ++ written second := by
  simp [written]

theorem written_cons (points : List StalePoint) :
    written [points] = if hasText points then points.map Prod.fst else [] := by
  by_cases texts : hasText points = true <;> simp [written, texts]

variable {vectors : List Vector}

theorem payloads_upsert {payloads : List (Dict Value)} {ids : List String} {value : Unit}
    (counted : ids.length = vectors.length) (paired : vectors.length = payloads.length)
    {before : Dict (Dict Value)} (there : state.payloads org_id = some before)
    (done : upsert services org_id vectors payloads (some ids) state = .ok (value, reached)) :
    reached.payloads org_id = some (Dict.merge before (ids.zip payloads)) := by
  have names := map_fst_zipPoints ids vectors payloads counted paired
  have values := payloads_zipPoints ids vectors payloads counted paired
  have added : Dict.mapValues StoredPoint.payload (zipPoints ids vectors payloads) =
      ids.zip payloads :=
    calc Dict.mapValues StoredPoint.payload (zipPoints ids vectors payloads)
        = ((zipPoints ids vectors payloads).map Prod.fst).zip
          ((zipPoints ids vectors payloads).map fun point => point.2.payload) :=
          List.zip_map'.symm
      _ = ids.zip payloads := by rw [names, values]
  obtain ⟨points, found, rfl⟩ := Option.map_eq_some_iff.mp there
  rw [upsertPoints_ok done, IndexState.payloads, collection_setCollection, Option.map_some,
    Dict.mapValues_merge, added, IndexState.points, found]
  rfl

variable {next : IndexCall Vector} {migration : Migration}

theorem Along.reembed_advance (org : migration.org_id = org_id)
    (target : migration.target_version = target_version)
    (faultless : migration.errors = 0 → ∃ done, groups = done ++ migration.rest ∧
      state.payloads org_id = some (brought target_version known done))
    (advanced : (IndexCall.reembed migration).advance services state = some (next, reached)) :
    Along org_id target_version known groups reached next := by
  rw [IndexCall.advance] at advanced
  split at advanced
  next none =>
    cases advanced
    apply Along.finished
    rintro response ⟨⟩ completed
    have none_wrong : migration.errors = 0 := by
      by_contra wrong
      simp [summary, wrong] at completed
    obtain ⟨done, all, now⟩ := faultless none_wrong
    rw [none, List.append_nil] at all
    rw [all]
    exact now
  next points rest more =>
    split_ifs at advanced with texts
    · split at advanced
      next vectors after done =>
        cases advanced
        obtain ⟨counted, same, -⟩ := Embedder.embedMany_points done
        have paired : vectors.length = points.length := by simpa [textsOf] using counted
        refine Along.rewrite { migration with rest } points vectors org target paired ?_
        intro none_wrong
        obtain ⟨earlier, all, now⟩ := faultless none_wrong
        refine ⟨earlier, by rw [all, more], texts, ?_⟩
        rw [IndexState.payloads, collection, same]
        exact now
      next error failed =>
        cases advanced
        refine Along.reembed { migration with rest, errors := migration.errors + 1 } org target ?_
        exact fun none_wrong => absurd none_wrong (Nat.succ_ne_zero _)
    · cases advanced
      refine Along.reembed { migration with rest } org target ?_
      intro none_wrong
      obtain ⟨earlier, all, now⟩ := faultless none_wrong
      refine ⟨earlier ++ [points], by simp [all, more], ?_⟩
      have nothing : written [points] = [] := by
        rw [written_cons]
        exact if_neg texts
      rw [brought, written_append, nothing, List.append_nil]
      exact now

theorem Along.rewrite_advance {points : List StalePoint} (distinct : (known.map Prod.fst).Nodup)
    (read : ∀ points ∈ groups, ∀ point ∈ points, point ∈ known) (org : migration.org_id = org_id)
    (target : migration.target_version = target_version) (paired : vectors.length = points.length)
    (faultless : migration.errors = 0 → ∃ done, groups = done ++ points :: migration.rest ∧
      hasText points = true ∧ state.payloads org_id = some (brought target_version known done))
    (advanced : (IndexCall.rewrite migration points vectors).advance services state =
      some (next, reached)) : Along org_id target_version known groups reached next := by
  rw [IndexCall.advance] at advanced
  split at advanced
  next value after done =>
    cases advanced
    refine Along.reembed
      { migration with re_embedded := migration.re_embedded + points.length } org target ?_
    intro none_wrong
    obtain ⟨earlier, all, texts, now⟩ := faultless none_wrong
    refine ⟨earlier ++ [points], by simp [all], ?_⟩
    rw [org] at done
    rw [payloads_upsert (by simp [paired]) (by simp [paired]) now done, target, List.zip_map']
    have mine : ∀ point ∈ points, point ∈ known := read points (by simp [all])
    rw [brought, Dict.adjust_merge _ _ _ distinct points mine, brought, written_append,
      written_cons, if_pos texts]
  next error failed =>
    cases advanced
    refine Along.reembed { migration with errors := migration.errors + 1 } org target ?_
    exact fun none_wrong => absurd none_wrong (Nat.succ_ne_zero _)

theorem Along.advance (distinct : (known.map Prod.fst).Nodup)
    (read : ∀ points ∈ groups, ∀ point ∈ points, point ∈ known)
    (along : Along org_id target_version known groups state call)
    (advanced : call.advance services state = some (next, reached)) :
    Along org_id target_version known groups reached next := by
  cases along with
  | reembed migration org target faultless =>
    exact Along.reembed_advance org target faultless advanced
  | rewrite migration points vectors org target paired faultless =>
    exact Along.rewrite_advance distinct read org target paired faultless advanced
  | finished result completed => cases advanced

theorem outdated_relabelled (payload : Dict Value) :
    outdated target_version (relabelled target_version payload) = false := by
  simp [outdated, relabelled, Dict.lookup_put, matchValue]

theorem staleOf_adjust (keys : List String) (known : Dict (Dict Value)) :
    staleOf target_version (Dict.adjust (relabelled target_version) keys known) =
      (staleOf target_version known).filter fun point => decide (point.1 ∉ keys) := by
  induction known with
  | nil => rfl
  | cons entry rest ih =>
    simp only [staleOf, Dict.adjust, List.map_cons] at ih ⊢
    by_cases changed : entry.1 ∈ keys
    · rw [if_pos changed, List.filter_cons, outdated_relabelled]
      by_cases old : outdated target_version entry.2 = true <;> simp [old, changed, ih]
    · rw [if_neg changed]
      by_cases old : outdated target_version entry.2 = true <;> simp [old, changed, ih]

theorem mem_written {groups : List (Value × List StalePoint)}
    (distinct : (stale.map Prod.fst).Nodup) (grouped : groupByDocument stale = .ok groups)
    (among : point ∈ stale) :
    point.1 ∈ written (groups.map Prod.snd) ↔
      hasText (stale.filter (sameDocument point)) = true := by
  obtain ⟨whole, covered⟩ := group_documents grouped
  constructor
  · intro done
    obtain ⟨other, there, sameId⟩ := List.mem_map.mp done
    obtain ⟨points, kept, inside⟩ := List.mem_flatten.mp there
    obtain ⟨listed, texts⟩ := List.mem_filter.mp kept
    obtain ⟨group, within, rfl⟩ := List.mem_map.mp listed
    have old := mem_groupByDocument stale groups grouped group within other inside
    have same : other = point := List.inj_on_of_nodup_map distinct old among sameId
    subst same
    rwa [← whole group within other inside]
  · intro texts
    obtain ⟨group, within, inside⟩ := covered point among
    rw [← whole group within point inside] at texts
    apply List.mem_map_of_mem
    apply List.mem_flatten.mpr
    exact ⟨group.2, List.mem_filter.mpr ⟨List.mem_map_of_mem within, texts⟩, inside⟩

theorem staleOf_brought (distinct : (known.map Prod.fst).Nodup)
    {groups : List (Value × List StalePoint)}
    (grouped : groupByDocument (staleOf target_version known) = .ok groups) :
    staleOf target_version (brought target_version known (groups.map Prod.snd)) =
      (staleOf target_version known).filter (textless (staleOf target_version known)) := by
  rw [brought, staleOf_adjust]
  apply List.filter_congr
  intro point among
  have ids : ((staleOf target_version known).map Prod.fst).Nodup :=
    distinct.sublist (List.filter_sublist.map Prod.fst)
  rw [textless, Bool.eq_iff_iff, decide_eq_true_iff, mem_written ids grouped among]
  simp

theorem scrollStaleChunks_payloads (state : IndexState Vector) :
    (scrollStaleChunks org_id target_version { state with storeUp := true }).map Prod.fst =
      match state.payloads org_id with
      | some known => .ok (staleOf target_version known)
      | none => .error (notFound (collectionName org_id)) := by
  have same : collection org_id { state with storeUp := true } = collection org_id state := rfl
  rw [scrollStaleChunks, onCollection, if_pos rfl, same, IndexState.payloads]
  cases collection org_id state with
  | none => rfl
  | some points =>
    simp only [Except.map, Option.map_some, staleOf, Dict.mapValues, List.filter_map]
    rfl

theorem scrolled_payloads
    (done : scrollStaleChunks org_id target_version state = .ok (stale, reached)) :
    ∃ known, state.payloads org_id = some known ∧ reached.payloads org_id = some known ∧
      stale = staleOf target_version known := by
  obtain ⟨points, there, found, same⟩ := onCollection_ok done
  refine ⟨Dict.mapValues StoredPoint.payload points, ?_, ?_, ?_⟩
  · rw [IndexState.payloads, there]
    rfl
  · rw [same, IndexState.payloads, collection_setCollection]
    rfl
  · rw [found, staleOf, Dict.mapValues, List.filter_map]
    rfl

inductive Far (org_id target_version : String) (request : ReEmbedOrgRequest)
    (before : Option (Dict (Dict Value))) (state : IndexState Vector) :
    Option (IndexCall Vector) → Prop where
  | waiting (call : Option (IndexCall Vector))
      (unstarted : call = none ∨ call = some (.runMigration request))
      (version : targetVersion request state.embedding_version = target_version)
      (same : state.payloads org_id = before) : Far org_id target_version request before state call
  | without (result : Except PyError IndexReply)
      (fails : ∀ response, result = .ok (.migrated response) → response.status ≠ "completed") :
      Far org_id target_version request before state (some (.finished result))
  | along (known : Dict (Dict Value)) (groups : List (Value × List StalePoint))
      (call : IndexCall Vector) (there : before = some known)
      (grouped : groupByDocument (staleOf target_version known) = .ok groups)
      (along : Along org_id target_version known (groups.map Prod.snd) state call) :
      Far org_id target_version request before state (some call)

variable {request : ReEmbedOrgRequest} {before : Option (Dict (Dict Value))}

theorem Far.outside {call : Option (IndexCall Vector)}
    (far : Far org_id target_version request before state call)
    (same : collection org_id reached = collection org_id state)
    (version : reached.embedding_version = state.embedding_version) :
    Far org_id target_version request before reached call := by
  have payloads : reached.payloads org_id = state.payloads org_id := by
    rw [IndexState.payloads, same, IndexState.payloads]
  cases far with
  | waiting _ unstarted named was =>
    apply Far.waiting _ unstarted
    · rw [version, named]
    · rw [payloads, was]
  | without result fails => exact .without result fails
  | along known groups call there grouped along =>
    exact .along known groups call there grouped (along.of_payloads payloads)

theorem Far.start (org : request.org_id = org_id)
    (done : scrollStaleChunks org_id target_version state = .ok (stale, reached)) :
    Far org_id target_version request (state.payloads org_id) reached
      (some (IndexCall.startMigration request target_version stale)) := by
  obtain ⟨known, there, now, rfl⟩ := scrolled_payloads done
  unfold IndexCall.startMigration
  split_ifs
  · apply Far.without
    rintro response ⟨⟩
    simp [upToDate]
  · cases grouped : groupByDocument (staleOf target_version known) with
    | error error =>
      apply Far.without
      exact nofun
    | ok groups =>
      apply Far.along known groups _ there grouped
      apply Along.reembed
        { org_id := request.org_id, target_version,
          found := (staleOf target_version known).length, rest := groups.map Prod.snd } org rfl
      intro _
      refine ⟨[], rfl, ?_⟩
      rw [now, brought]
      congr 1
      exact (Dict.adjust_none _ known).symm

theorem Far.advance (org : request.org_id = org_id)
    (distinct : ∀ known, before = some known → (known.map Prod.fst).Nodup)
    (far : Far org_id target_version request before state (some call))
    (advanced : call.advance services state = some (next, reached)) :
    Far org_id target_version request before reached (some next) := by
  cases far with
  | waiting _ unstarted version same =>
    obtain rfl := Option.some.inj (unstarted.resolve_left (Option.some_ne_none _))
    simp only [IndexCall.advance, version, org] at advanced
    rcases done : scrollStaleChunks org_id target_version state with error | ⟨stale, after⟩ <;>
      rw [done] at advanced <;> cases advanced
    · apply Far.without
      rintro _ ⟨⟩
    · rw [← same]
      exact Far.start org done
  | without result fails => cases advanced
  | along known groups _ there grouped along =>
    apply Far.along known groups next there grouped
    apply along.advance (distinct known there) _ advanced
    intro points listed point inside
    obtain ⟨group, within, rfl⟩ := List.mem_map.mp listed
    have old := mem_groupByDocument _ groups grouped group within point inside
    exact List.mem_of_mem_filter old

end Alone

section Whole

variable {Vector κ : Type} [DecidableEq κ] (services : IndexServices Vector)

open QdrantVectorStore MigrationService

/-- What the writers have come to with so many turns. -/
def filled (writers : κ → Writer Vector) (moves : List (Pool.Move κ (IndexState Vector)))
    (initial : IndexState Vector) : IndexState Vector :=
  (Pool.play (Writer.advance services) writers moves (Pool.idle initial)).state

/-- A migration as the only call. -/
def migrated (request : ReEmbedOrgRequest) (meanwhile : List (Pool.Move Unit (IndexState Vector)))
    (state : IndexState Vector) : Pool Unit (IndexState Vector) (IndexCall Vector) :=
  Pool.play (IndexCall.advance services) (fun _ => .runMigration request) meanwhile
    (Pool.idle state)

/-- What `scroll_stale_chunks` returns where the store can be reached. -/
def staleChunks (org_id target_version : String) (state : IndexState Vector) :
    Except PyError (List StalePoint) :=
  (scrollStaleChunks org_id target_version { state with storeUp := true }).map Prod.fst

variable {services} {org_id : String}

theorem filled_distinct (writers : κ → Writer Vector)
    (moves : List (Pool.Move κ (IndexState Vector)))
    (aside : ∀ change, .outside change ∈ moves → ∀ state,
      collection org_id (change state) = collection org_id state)
    (initial : IndexState Vector) (new : collection org_id initial = none) :
    Distinct org_id (filled services writers moves initial) := by
  apply Pool.play_keeps (fun pool => Distinct org_id pool.state) moves
  · intro pool call distinct
    unfold Pool.turn
    split
    · exact distinct
    · split
      · exact distinct
      · exact distinct.advance ‹_›
  · intro change among pool distinct
    exact distinct.of_collection (aside change among pool.state)
  · rw [Distinct, IndexState.pointIds, IndexState.points]
    simp [Pool.idle, new]

theorem payloads_distinct {state : IndexState Vector} (distinct : Distinct org_id state)
    {known : Dict (Dict Value)} (there : state.payloads org_id = some known) :
    (known.map Prod.fst).Nodup := by
  obtain ⟨points, found, rfl⟩ := Option.map_eq_some_iff.mp there
  rw [Distinct, IndexState.pointIds, IndexState.points, found] at distinct
  have ids : (Dict.mapValues StoredPoint.payload points).map Prod.fst = points.map Prod.fst := by
    simp [Dict.mapValues]
  rw [ids]
  exact distinct

theorem contents_payloads (state : IndexState Vector) :
    state.contents org_id = ((state.payloads org_id).map (Dict.mapValues unlabelled)).getD [] := by
  rw [IndexState.contents, IndexState.points, IndexState.payloads]
  cases collection org_id state with
  | none => rfl
  | some points => simp [contentsOf, Dict.mapValues]

theorem migrated_far {request : ReEmbedOrgRequest} (org : request.org_id = org_id)
    {state : IndexState Vector} (distinct : Distinct org_id state)
    (meanwhile : List (Pool.Move Unit (IndexState Vector)))
    (alone : ∀ change, .outside change ∈ meanwhile → ∀ state,
      collection org_id (change state) = collection org_id state ∧
        (change state).embedding_version = state.embedding_version) :
    Far org_id (targetVersion request state.embedding_version) request (state.payloads org_id)
      (migrated services request meanwhile state).state
      ((migrated services request meanwhile state).calls ()) := by
  apply Pool.play_keeps (fun pool => Far org_id (targetVersion request state.embedding_version)
    request (state.payloads org_id) pool.state (pool.calls ())) meanwhile
  · intro pool call far
    cases call
    unfold Pool.turn
    split
    next unused =>
      rw [unused] at far
      simp only [Pool.put_self]
      cases far with
      | waiting _ unstarted version same => exact .waiting _ (.inr rfl) version same
    next process running =>
      rw [running] at far
      split
      · rwa [running]
      next following after advanced =>
        simp only [Pool.put_self]
        exact far.advance org (fun _ => payloads_distinct distinct) advanced
  · intro change among pool far
    obtain ⟨same, version⟩ := alone change among pool.state
    exact far.outside same version
  · exact .waiting _ (.inl rfl) rfl rfl

/-- What is stale after a migration that has completed is what has no text, nor has any other
stale point of its document; and all points are as before, but for their vectors and versions. -/
theorem migration_leaves_textless (writers : κ → Writer Vector)
    (moves : List (Pool.Move κ (IndexState Vector)))
    (aside : ∀ change, .outside change ∈ moves → ∀ state,
      collection org_id (change state) = collection org_id state)
    (initial : IndexState Vector) (new : collection org_id initial = none)
    (request : ReEmbedOrgRequest) (org : request.org_id = org_id)
    (meanwhile : List (Pool.Move Unit (IndexState Vector)))
    (alone : ∀ change, .outside change ∈ meanwhile → ∀ state,
      collection org_id (change state) = collection org_id state ∧
        (change state).embedding_version = state.embedding_version)
    (response : ReEmbedOrgResponse)
    (finished : (migrated services request meanwhile
      (filled services writers moves initial)).calls () =
        some (.finished (.ok (.migrated response))))
    (completed : response.status = "completed") :
    let before := filled services writers moves initial
    let after := (migrated services request meanwhile before).state
    let target_version := targetVersion request before.embedding_version
    ∃ stale, staleChunks org_id target_version before = .ok stale ∧
      staleChunks org_id target_version after = .ok (stale.filter (textless stale)) ∧
      after.contents org_id = before.contents org_id := by
  intro before after target_version
  have distinct : Distinct org_id before := filled_distinct writers moves aside initial new
  have far := @migrated_far _ services org_id request org before distinct meanwhile alone
  rw [finished] at far
  generalize found : before.payloads org_id = known at far
  cases far with
  | waiting _ unstarted => rcases unstarted with none | begun <;> cases ‹_›
  | without result fails => exact absurd completed (fails response rfl)
  | along known groups _ there grouped along =>
    cases along with
    | finished result now =>
      have reached : after.payloads org_id =
          some (brought target_version known (groups.map Prod.snd)) := now response rfl completed
      rw [there] at found
      have ids : (known.map Prod.fst).Nodup := payloads_distinct distinct found
      refine ⟨staleOf target_version known, ?_, ?_, ?_⟩
      · rw [staleChunks, scrollStaleChunks_payloads, found]
      · rw [staleChunks, scrollStaleChunks_payloads, reached]
        exact congrArg _ (staleOf_brought ids grouped)
      · rw [contents_payloads, contents_payloads, reached, found]
        simp only [Option.map_some, Option.getD_some, brought]
        exact Dict.mapValues_adjust _ _ (unlabelled_relabelled target_version) _ _

end Whole

open QdrantVectorStore MigrationService

/-- `embed_texts` without metadata, and `upsert_faqs`. -/
def twoWriters (faq : Bool) : Writer Unit :=
  if faq then
    .index (.upsertFaqs { org_id := "acme", faqs := [⟨"hours", "When do you open?", "At nine."⟩] })
  else .embedTexts { org_id := "acme", texts := ["Open until six."] }

def inTurn : List (Pool.Move Bool (IndexState Unit)) :=
  [.turn false, .turn true, .turn false, .turn true, .turn false, .turn true]

def toNextVersion : ReEmbedOrgRequest := { org_id := "acme", target_version := some "v2" }

def unfilled : IndexState Unit := { minted := 1 }

theorem question_brought :
    staleChunks "acme" "v2" (migrated plainServices toNextVersion (List.replicate 6 (.turn ()))
      (filled plainServices twoWriters inTurn unfilled)).state = .ok [("a", [])] := by
  obtain ⟨stale, found, left, -⟩ := @migration_leaves_textless Unit Bool _ plainServices "acme"
    twoWriters inTurn (by simp [inTurn]) unfilled rfl toNextVersion rfl
    (List.replicate 6 (.turn ())) (by simp) _ rfl rfl
  obtain rfl : stale = _ := (Except.ok.inj (found.symm.trans rfl))
  exact left

/-- Without metadata a text is not kept, so that nothing can be embedded anew. -/
theorem text_left_stale :
    ∃ response left,
      (migrated plainServices toNextVersion (List.replicate 6 (.turn ()))
        (filled plainServices twoWriters inTurn unfilled)).calls () =
          some (.finished (.ok (.migrated response))) ∧
      response.status = "completed" ∧ response.errors = 0 ∧
      staleChunks "acme" "v2" (migrated plainServices toNextVersion (List.replicate 6 (.turn ()))
        (filled plainServices twoWriters inTurn unfilled)).state = .ok left ∧ left ≠ [] := by
  refine ⟨_, [("a", [])], rfl, rfl, rfl, rfl, by simp⟩

end HelpForge.Chatbot
