import HelpForge.Chatbot.Vectors.Store
import HelpForge.Lib.History

set_option autoImplicit false

namespace HelpForge.Chatbot

open Lib

structure FAQEntry where
  faq_id : String
  question : String
  answer : String

structure UpsertFAQRequest where
  org_id : String
  faqs : List FAQEntry

structure DeleteScrapedDocumentsRequest where
  org_id : String
  document_ids : List String

structure ReEmbedOrgRequest where
  org_id : String
  target_version : Option String := none

structure ReEmbedOrgResponse where
  org_id : String
  stale_chunks_found : Nat
  chunks_re_embedded : Nat
  errors : Nat
  status : String

inductive IndexReply where
  | processed (response : ProcessDocumentResponse)
  | upserted (org_id : String) (upserted : Nat) (status : String)
  | deleted (org_id : String) (documents_deleted : Nat) (status : String)
  | migrated (response : ReEmbedOrgResponse)

/-- A point as `scroll_stale_chunks` returns it, without its vector. -/
abbrev StalePoint := String × Dict Value

structure Migration where
  org_id : String
  target_version : String
  found : Nat
  re_embedded : Nat := 0
  errors : Nat := 0
  -- The points of the documents that are still to be done.
  rest : List (List StalePoint)

inductive IndexCall (Vector : Type) where
  | process (request : ProcessDocumentRequest) (chunks : List (Dict Value))
  | embed (request : ProcessDocumentRequest) (chunks : List (Dict Value))
  | store (request : ProcessDocumentRequest) (chunks : List (Dict Value)) (vectors : List Vector)
  | upsertFaqs (request : UpsertFAQRequest)
  | storeFaqs (request : UpsertFAQRequest) (payloads : List (Dict Value)) (vectors : List Vector)
  | deleteScraped (request : DeleteScrapedDocumentsRequest)
  | runMigration (request : ReEmbedOrgRequest)
  | reembed (migration : Migration)
  | rewrite (migration : Migration) (points : List StalePoint) (vectors : List Vector)
  | finished (result : Except PyError IndexReply)

namespace MigrationService

def sameKey : Value → Value → Bool
  -- Keys that Python takes for equal; a list or a dictionary is no key.
  | .str one, .str other => one == other
  | .none, .none => true
  | .nonFinite one, .nonFinite other => one == other
  | one, other =>
    match number one, number other with
    | some one, some other => one == other
    | _, _ => false
where
  number : Value → Option Rat
    | .bool value => some (if value then 1 else 0)
    | .int value => some value
    | .float value => some value
    | _ => none

def keyOf (point : StalePoint) : Except PyError Value :=
  let key := (point.2.lookup "document_id").getD .none
  let key := if key.truthy then key else .str point.1
  match key with
  | .list _ | .dict _ => .error ⟨"TypeError", "unhashable type: '" ++ key.typeName ++ "'"⟩
  | key => .ok key

def addTo (key : Value) (point : StalePoint) :
    List (Value × List StalePoint) → List (Value × List StalePoint)
  | [] => [(key, [point])]
  | (other, points) :: rest =>
    if sameKey other key then (other, points ++ [point]) :: rest
    else (other, points) :: addTo key point rest

def groupByDocument (points : List StalePoint) : Except PyError (List (Value × List StalePoint)) :=
  points.foldlM
    (fun groups point => do
      let key ← keyOf point
      return addTo key point groups)
    []

def textsOf (points : List StalePoint) : List Value :=
  points.map fun point => (point.2.lookup "text").getD (.str "")

/-- `{**payload, "embedding_version": target_version}`. -/
def relabelled (target_version : String) (payload : Dict Value) : Dict Value :=
  Dict.put payload "embedding_version" (.str target_version)

def targetVersion (request : ReEmbedOrgRequest) (embedding_version : String) : String :=
  match request.target_version with
  | some "" | none => embedding_version
  | some version => version

def upToDate (org_id : String) : ReEmbedOrgResponse where
  org_id
  stale_chunks_found := 0
  chunks_re_embedded := 0
  errors := 0
  status := "up_to_date"

def summary (migration : Migration) : ReEmbedOrgResponse where
  org_id := migration.org_id
  stale_chunks_found := migration.found
  chunks_re_embedded := migration.re_embedded
  errors := migration.errors
  status := if migration.errors = 0 then "completed" else "completed_with_errors"

end MigrationService

namespace DocumentService

def faqPayload (org_id embedding_version : String) (entry : FAQEntry) : Dict Value :=
  [("source_type", .str "faq"), ("document_id", .str entry.faq_id),
    ("question", .str entry.question), ("answer", .str entry.answer),
    ("text", .str entry.question), ("org_id", .str org_id),
    ("embedding_version", .str embedding_version)]

end DocumentService

namespace IndexCall

variable {Vector : Type} (services : IndexServices Vector)

open QdrantVectorStore Embedder MigrationService DocumentService

def proceed {α : Type} (state : IndexState Vector)
    (outcome : Except PyError (α × IndexState Vector)) (next : α → IndexCall Vector) :
    IndexCall Vector × IndexState Vector :=
  -- The step has failed, and with it the call, or it goes on with what the step has returned.
  match outcome with
  | .ok (value, reached) => (next value, reached)
  | .error error => (.finished (.error error), state)

def skip (migration : Migration) (rest : List (List StalePoint)) : IndexCall Vector :=
  .reembed { migration with rest }

def failed (migration : Migration) (rest : List (List StalePoint)) : IndexCall Vector :=
  .reembed { migration with rest, errors := migration.errors + 1 }

def startMigration (request : ReEmbedOrgRequest) (target_version : String)
    (stale_points : List StalePoint) : IndexCall Vector :=
  if stale_points.isEmpty then .finished (.ok (.migrated (upToDate request.org_id)))
  else
    match groupByDocument stale_points with
    | .error error => .finished (.error error)
    | .ok groups => .reembed
        { org_id := request.org_id, target_version, found := stale_points.length,
          rest := groups.map Prod.snd }

def advance : IndexCall Vector → IndexState Vector → Option (IndexCall Vector × IndexState Vector)
  | .process request chunks, state =>
    some (proceed state (deleteByDocument request.org_id request.document_id state)
      fun _ => .embed request chunks)
  | .embed request chunks, state =>
    some (proceed state
      (embedMany services (chunks.map fun chunk => (chunk.lookup "text").getD .none) state)
      fun vectors => .store request chunks vectors)
  | .store request chunks vectors, state =>
    some (proceed state (upsert services request.org_id vectors chunks none state)
      fun _ => .finished (.ok (.processed
        { document_id := request.document_id, chunks_created := chunks.length,
          status := "success" })))
  | .upsertFaqs request, state =>
    if request.faqs.isEmpty then
      some (.finished (.ok (.upserted request.org_id 0 "success")), state)
    else
      some (proceed state
        (embedMany services (request.faqs.map fun entry => .str entry.question) state)
        fun vectors => .storeFaqs request
          (request.faqs.map (faqPayload request.org_id state.embedding_version)) vectors)
  | .storeFaqs request payloads vectors, state =>
    some (proceed state
      (upsert services request.org_id vectors payloads (some (request.faqs.map FAQEntry.faq_id))
        state)
      fun _ => .finished (.ok (.upserted request.org_id request.faqs.length "success")))
  | .deleteScraped request, state =>
    let (deleted, reached) := deleteByDocuments request.org_id request.document_ids state
    some (.finished (.ok (.deleted request.org_id deleted "success")), reached)
  | .runMigration request, state =>
    let target_version := targetVersion request state.embedding_version
    some (proceed state (scrollStaleChunks request.org_id target_version state)
      (startMigration request target_version))
  | .reembed migration, state =>
    match migration.rest with
    | [] => some (.finished (.ok (.migrated (summary migration))), state)
    | points :: rest =>
      if (textsOf points).any Value.truthy then
        match embedMany services (textsOf points) state with
        | .ok (vectors, reached) =>
          some (.rewrite { migration with rest } points vectors, reached)
        | .error _ => some (failed migration rest, state)
      else some (skip migration rest, state)
  | .rewrite migration points vectors, state =>
    match upsert services migration.org_id vectors
        (points.map fun point => relabelled migration.target_version point.2)
        (some (points.map Prod.fst)) state with
    | .ok (_, reached) =>
      some (.reembed { migration with re_embedded := migration.re_embedded + points.length },
        reached)
    | .error _ => some (failed migration migration.rest, state)
  | .finished _, _ => none

/-- `process_document` up to its first call of the store: the chunks of the content. -/
def Ingests (embedding_version : String) (request : ProcessDocumentRequest)
    (call : IndexCall Vector) : Prop :=
  ∃ passes chunks, documentChunks passes request embedding_version = some chunks ∧
    call = .process request chunks

def complete : Nat → IndexCall Vector → IndexState Vector → IndexCall Vector × IndexState Vector
  -- The call by itself, for as many steps.
  | 0, call, state => (call, state)
  | steps + 1, call, state =>
    match call.advance services state with
    | some (next, reached) => complete steps next reached
    | none => (call, state)

end IndexCall

end HelpForge.Chatbot
