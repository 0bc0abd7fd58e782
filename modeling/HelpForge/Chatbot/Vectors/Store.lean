import HelpForge.Chatbot.Chunker
import HelpForge.Chatbot.Python
import HelpForge.Lib.Expiring

set_option autoImplicit false

/-!
# The vector store

Each operation is one step on the collections and the cache of embeddings.
-/

namespace HelpForge.Chatbot

open Lib

structure StoredPoint (Vector : Type) where
  vector : Vector
  payload : Dict Value

abbrev Collection (Vector : Type) := Dict (StoredPoint Vector)

structure IndexState (Vector : Type) where
  collections : Dict (Collection Vector) := []
  cache : Expiring String Vector := {}
  now : Nat := 0
  embedding_version : String := settings.embedding_version
  -- How many ids `uuid4` has given.
  minted : Nat := 0
  storeUp : Bool := true
  embeddingUp : Bool := true

/-- What the store and the embedding service rest on: the ids of `uuid4`, the digest of a text
in hexadecimal, and the vector that the model of a version assigns to a text. -/
structure IndexServices (Vector : Type) where
  uuid : Nat → String
  sha256 : String → String
  model : String → String → Vector

/-- `MatchValue`, which is met by one item of a list too. -/
def matchValue (wanted : String) : Option Value → Bool
  | some (.str value) => value == wanted
  | some (.list items) => items.any fun item => item.asStr == some wanted
  | _ => false

def ofDocument (document_id : String) (payload : Dict Value) : Bool :=
  matchValue document_id (payload.lookup "document_id")

def cacheTtlSeconds : Nat := 300

section Store

variable {Vector : Type}

namespace QdrantVectorStore

def collectionName (org_id : String) : String := "org_" ++ org_id

def unreachable : PyError := ⟨"ResponseHandlingException", "All connection attempts failed"⟩

def notFound (name : String) : PyError :=
  ⟨"UnexpectedResponse", "Not found: Collection " ++ name ++ " doesn't exist!"⟩

def collection (org_id : String) (state : IndexState Vector) : Option (Collection Vector) :=
  state.collections.lookup (collectionName org_id)

def setCollection (org_id : String) (points : Collection Vector) (state : IndexState Vector) :
    IndexState Vector :=
  { state with collections := Dict.put state.collections (collectionName org_id) points }

def onCollection {α : Type} (org_id : String) (body : Collection Vector → α × Collection Vector)
    (state : IndexState Vector) : Except PyError (α × IndexState Vector) :=
  -- A request on a collection that has to be there.
  if state.storeUp then
    match collection org_id state with
    | some points => .ok ((body points).1, setCollection org_id (body points).2 state)
    | none => .error (notFound (collectionName org_id))
  else .error unreachable

def deleteByDocument (org_id document_id : String) (state : IndexState Vector) :
    Except PyError (Unit × IndexState Vector) :=
  onCollection org_id
    (fun points => ((), points.filter fun point => !ofDocument document_id point.2.payload)) state

def deleteByDocuments (org_id : String) (document_ids : List String) (state : IndexState Vector) :
    Nat × IndexState Vector :=
  -- A collection that cannot be looked up, or is not there, has nothing to delete.
  if document_ids.isEmpty || !state.storeUp then (0, state)
  else
    match collection org_id state with
    | none => (0, state)
    | some points =>
      (document_ids.length,
        setCollection org_id
          (points.filter fun point => !document_ids.any fun id => ofDocument id point.2.payload)
          state)

/-- `zip(ids, vectors, payloads)`. -/
def zipPoints (ids : List String) (vectors : List Vector) (payloads : List (Dict Value)) :
    List (String × StoredPoint Vector) :=
  ids.zip (vectors.zipWith StoredPoint.mk payloads)

/-- `ensure_collection`, and then the points. -/
def upsertPoints (org_id : String) (points : List (String × StoredPoint Vector))
    (state : IndexState Vector) : Except PyError (Unit × IndexState Vector) :=
  if state.storeUp then
    .ok ((), setCollection org_id (Dict.merge ((collection org_id state).getD []) points) state)
  else .error unreachable

/-- `upsert` with the given ids, or with new ones. -/
def upsert (services : IndexServices Vector) (org_id : String) (vectors : List Vector)
    (payloads : List (Dict Value)) (ids : Option (List String)) (state : IndexState Vector) :
    Except PyError (Unit × IndexState Vector) :=
  match ids with
  | some ids => upsertPoints org_id (zipPoints ids vectors payloads) state
  | none =>
    let ids := (List.range vectors.length).map fun index => services.uuid (state.minted + index)
    upsertPoints org_id (zipPoints ids vectors payloads)
      { state with minted := state.minted + vectors.length }

def scrollStaleChunks (org_id current_version : String) (state : IndexState Vector) :
    Except PyError (List (String × Dict Value) × IndexState Vector) :=
  onCollection org_id
    (fun points =>
      ((points.filter fun point =>
          !matchValue current_version (point.2.payload.lookup "embedding_version")).map
        fun point => (point.1, point.2.payload), points))
    state

end QdrantVectorStore

namespace Embedder

def cacheKey (services : IndexServices Vector) (text : String) : String :=
  -- A digest of 64 bits; the version of the model has no part in it.
  "embed:" ++ String.ofList ((services.sha256 text).toList.take 16)

def textOf : Value → Except PyError String
  | .str text => .ok text
  | other => .error (other.noAttribute "encode")

def cached (services : IndexServices Vector) (state : IndexState Vector) (text : String) :
    Option Vector :=
  state.cache.get state.now (cacheKey services text)

def vectorOf (services : IndexServices Vector) (state : IndexState Vector) (text : String) :
    Vector :=
  -- What the cache holds for the text, or what the model assigns to it.
  (cached services state text).getD (services.model state.embedding_version text)

def writeCache (services : IndexServices Vector) (texts : List String)
    (state : IndexState Vector) : IndexState Vector :=
  { state with
    cache := texts.foldl
      (fun cache text => cache.setex state.now cacheTtlSeconds (cacheKey services text)
        (services.model state.embedding_version text))
      state.cache }

def embedMany (services : IndexServices Vector) (values : List Value) (state : IndexState Vector) :
    Except PyError (List Vector × IndexState Vector) := do
  let texts ← values.mapM textOf
  let uncached := texts.filter fun text => (cached services state text).isNone
  if uncached.isEmpty then return (texts.map (vectorOf services state), state)
  else if state.embeddingUp then
    return (texts.map (vectorOf services state), writeCache services uncached state)
  else .error ⟨"HTTPStatusError", "502 Bad Gateway"⟩

end Embedder

end Store

end HelpForge.Chatbot
