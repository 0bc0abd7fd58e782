import HelpForge.Scraper.Fetch
import HelpForge.Shared.Errors

set_option autoImplicit false

/-!
# What the scraper keeps

Any statement may fail, and then it changes nothing.
-/

namespace HelpForge.Scraper

open Lib

inductive ScrapeStatus where
  | PENDING
  | PROCESSING
  | COMPLETED
  | FAILED
  | STALE
  deriving DecidableEq, Repr

structure ScrapedPage where
  id : Nat
  orgId : Nat
  url : String
  urlHash : String
  contentHash : Option String := none
  status : ScrapeStatus := .PENDING
  chunkCount : Nat := 0
  lastScrapedAt : Option Nat := none
  lastEmbeddedAt : Option Nat := none
  -- In UTF-16, in which it is cut.
  errorMessage : Option (List UInt16) := none
  createdAt : Nat
  updatedAt : Nat
  deriving DecidableEq, Repr

inductive JobState where
  | waiting
  | delayed
  | active
  | completed
  | failed
  deriving DecidableEq, Repr

/-- The data of a `scrape-page` job. -/
structure ScrapeJobData where
  org_id : Nat
  url : String
  url_hash : String
  deriving DecidableEq, Repr

structure ScrapeJob where
  id : String
  data : ScrapeJobData
  priority : Nat
  state : JobState := .waiting
  attemptsMade : Nat := 0
  deriving DecidableEq, Repr

structure PageMetadata where
  url : String
  content_hash : String
  source_type : String := "web_page"
  source : String
  title : String
  scraped_at : Nat
  word_count : Nat
  byte_length : Nat
  deriving DecidableEq, Repr

inductive BridgeJob where
  | processDocument (org_id : Nat) (document_id content : String) (metadata : PageMetadata)
  | deleteDocuments (org_id : Nat) (document_ids : List String)
  deriving DecidableEq, Repr

inductive Statement where
  | isCached
  | findExisting
  | markPending
  | addScrapingJob
  | markScraped
  | markProcessing
  | markFailed
  | findHash
  | addProcessDocument
  | markCompleted
  | findPage
  | deletePage
  | invalidate (urlHash : String)
  | findOrgs
  | findStale (orgId : Nat)
  | addDeleteDocuments (orgId : Nat)
  | markStale (orgId : Nat)
  | purge (orgId : Nat)
  deriving DecidableEq, Repr

structure ScrapeWorld where
  pages : List ScrapedPage := []
  nextId : Nat := 0
  -- Whether `scraper:cache:{orgId}:{urlHash}` is set.
  cached : Nat → String → Bool := fun _ _ => false
  cacheClient : Bool := true
  scraperQueue : Bool := true
  jobs : List ScrapeJob := []
  bridgeQueue : Bool := true
  -- The oldest first.
  bridge : List BridgeJob := []
  -- The text of which the vector store holds the chunks, by organisation and document.
  documents : Nat → String → Option String := fun _ _ => none
  web : Web
  -- The URLs that static fetches have connected to, the latest ones last.
  connected : List Url := []
  now : Nat := 0
  fails : Statement → Bool := fun _ => false

abbrev ScrapeCall (α : Type) := Program ScrapeWorld ServiceError α

def statement {α : Type} (name : Statement) (body : ScrapeWorld → α × ScrapeWorld) :
    ScrapeCall α :=
  -- A statement that leaves the error to its caller.
  Program.attempt fun world =>
    if world.fails name then .error (.unavailable "statement") else .ok (body world)

def ScrapedPage.At (page : ScrapedPage) (orgId : Nat) (urlHash : String) : Prop :=
  page.orgId = orgId ∧ page.urlHash = urlHash

instance (page : ScrapedPage) (orgId : Nat) (urlHash : String) :
    Decidable (page.At orgId urlHash) :=
  inferInstanceAs (Decidable (_ ∧ _))

def ScrapeWorld.findPage (world : ScrapeWorld) (orgId : Nat) (urlHash : String) :
    Option ScrapedPage :=
  world.pages.find? fun page => page.At orgId urlHash

def findUnique (name : Statement) (orgId : Nat) (urlHash : String) :
    ScrapeCall (Option ScrapedPage) :=
  statement name fun world => (world.findPage orgId urlHash, world)

def ScrapeWorld.upsert (world : ScrapeWorld) (orgId : Nat) (url urlHash : String)
    (data : ScrapedPage → ScrapedPage) : ScrapeWorld :=
  if (world.findPage orgId urlHash).isSome then
    { world with
      pages := world.pages.map fun page =>
        if page.At orgId urlHash then { data page with updatedAt := world.now } else page }
  else
    let page : ScrapedPage :=
      { id := world.nextId, orgId, url, urlHash, createdAt := world.now, updatedAt := world.now }
    { world with
      pages := world.pages ++ [{ data page with updatedAt := world.now }]
      nextId := world.nextId + 1 }

def upsertScrapedPage (name : Statement) (orgId : Nat) (url urlHash : String)
    (data : ScrapedPage → ScrapedPage) : ScrapeCall Unit :=
  statement name fun world => ((), world.upsert orgId url urlHash data)

def ScrapeWorld.markStale (world : ScrapeWorld) (ids : List Nat) : ScrapeWorld :=
  { world with
    pages := world.pages.map fun page =>
      if page.id ∈ ids then { page with status := .STALE, updatedAt := world.now } else page }

def cacheStatement (name : Statement) (change : ScrapeWorld → ScrapeWorld) : ScrapeCall Unit :=
  -- Its errors are swallowed.
  Program.modify fun world => if world.cacheClient && !world.fails name then change world else world

def ScrapeWorld.setCached (world : ScrapeWorld) (orgId : Nat) (urlHash : String) (value : Bool) :
    ScrapeWorld :=
  { world with
    cached := Function.update world.cached orgId
      (Function.update (world.cached orgId) urlHash value) }

def isCached (orgId : Nat) (urlHash : String) : ScrapeCall Bool :=
  Program.reads fun world =>
    world.cacheClient && !world.fails .isCached && world.cached orgId urlHash

def markScraped (orgId : Nat) (urlHash : String) : ScrapeCall Unit :=
  cacheStatement .markScraped fun world => world.setCached orgId urlHash true

def invalidate (orgId : Nat) (urlHash : String) : ScrapeCall Unit :=
  cacheStatement (.invalidate urlHash) fun world => world.setCached orgId urlHash false

inductive Priority where
  | high
  | normal
  | low
  deriving DecidableEq, Repr

def priorityMap : Priority → Nat
  | .high => 1
  | .normal => 5
  | .low => 10

def scrapeJobId (orgId : Nat) (urlHash : String) : String := s!"scrape:{orgId}:{urlHash}"

def ScrapeWorld.addJob (world : ScrapeWorld) (job : ScrapeJob) : ScrapeWorld :=
  -- An add is ignored if the queue has a job of this id, in whatever state.
  if world.jobs.any (·.id == job.id) then world else { world with jobs := world.jobs ++ [job] }

/-- The id of the job, or none without a queue. A priority that the table does not have is that of
`normal`. -/
def enqueueScrapingJob (orgId : Nat) (url urlHash : String) (priority : Option Priority) :
    ScrapeCall (Option String) := do
  let connected ← Program.reads (·.scraperQueue)
  if !connected then return none
  let job : ScrapeJob :=
    { id := scrapeJobId orgId urlHash
      data := { org_id := orgId, url, url_hash := urlHash }
      priority := priorityMap (priority.getD .normal) }
  statement .addScrapingJob fun world => (some job.id, world.addJob job)

def enqueueBridgeJob (name : Statement) (job : BridgeJob) : ScrapeCall Bool := do
  let connected ← Program.reads (·.bridgeQueue)
  if !connected then return false
  statement name fun world => (true, { world with bridge := world.bridge ++ [job] })

def enqueueProcessDocument (orgId : Nat) (documentId content : String) (metadata : PageMetadata) :
    ScrapeCall Bool :=
  enqueueBridgeJob .addProcessDocument (.processDocument orgId documentId content metadata)

def enqueueDeleteDocuments (orgId : Nat) (documentIds : List String) : ScrapeCall Bool :=
  enqueueBridgeJob (.addDeleteDocuments orgId) (.deleteDocuments orgId documentIds)

def BridgeJob.execute (documents : Nat → String → Option String) :
    BridgeJob → Nat → String → Option String
  -- What a job of the bridge makes of the documents.
  | .processDocument org_id document_id content _ => fun orgId documentId =>
    if orgId = org_id ∧ documentId = document_id then some content else documents orgId documentId
  | .deleteDocuments org_id document_ids => fun orgId documentId =>
    if orgId = org_id ∧ documentId ∈ document_ids then none else documents orgId documentId

end HelpForge.Scraper
