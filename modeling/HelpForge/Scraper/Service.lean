import HelpForge.Scraper.Repo

set_option autoImplicit false

namespace HelpForge.Scraper

open Lib

/-- What `parseHtml` finds in a page; `description` is that of its meta tags. -/
structure ParsedPage where
  title : String := ""
  headings : List String := []
  body : String := ""
  description : Option String := none
  wordCount : Nat := 0
  deriving DecidableEq, Repr

structure ScraperSetup where
  parser : UrlParser
  hashUrl : String → String
  hashContent : String → String
  decode : List UInt8 → String
  parseHtml : String → String → Except String ParsedPage
  freshnessTtlMs : Nat := 24 * 60 * 60 * 1000
  retentionMs : Nat := 30 * 24 * 60 * 60 * 1000
  maxPageBytes : Nat := 5 * 1024 * 1024
  thinWordThreshold : Nat

def spaSignals : List String :=
  ["id=\"root\"", "id='root'", "data-reactroot", "__next_data__", "id=\"app\"", "id='app'",
    "data-v-app", "data-vue-app", "id=\"nuxt\"", "id='nuxt'", "window.__nuxt__", "ng-version",
    "ng-app", "id=\"svelte\"", "id='svelte'", "id=\"ember", "data-ember-action",
    "please enable javascript", "javascript is required", "enable javascript to run",
    "this app requires javascript"]

-- Lower case is that of ASCII letters: no other letter's lower case is one of the signals' letters.
def isSpaWithThinContent (setup : ScraperSetup) (parsed : ParsedPage) (rawHtml : String) : Bool :=
  parsed.wordCount < setup.thinWordThreshold &&
    spaSignals.any fun signal => decide (signal.toList <:+: lowerCase rawHtml)

def buildEmbeddingText (parsed : ParsedPage) : String :=
  let title := if parsed.title = "" then [] else [s!"Title: {parsed.title}"]
  let summary :=
    match parsed.description with
    | some description => if description = "" then [] else [s!"Summary: {description}"]
    | none => []
  let headings := if parsed.headings = [] then [] else ["\n".intercalate parsed.headings]
  let body := if parsed.body = "" then [] else [parsed.body]
  "\n\n".intercalate (title ++ summary ++ headings ++ body)

inductive EnqueueResult where
  | rejected (reason : String)
  | cached (urlHash : String)
  | processing (urlHash : String)
  | fresh (urlHash : String)
  | queued (urlHash : String) (jobId : Option String)
  deriving DecidableEq, Repr

inductive FetchType where
  | static
  | puppeteer
  deriving DecidableEq, Repr

inductive ScrapeResult where
  | skipped (contentHash : String)
  | success (contentHash : String) (wordCount : Nat) (fetchType : FetchType)
  deriving DecidableEq, Repr

section Service

variable (setup : ScraperSetup)

def enqueuePage (orgId : Nat) (url : String) (priority : Option Priority) :
    ScrapeCall EnqueueResult := do
  let urlHash := setup.hashUrl url
  -- Before the job is added, so that parallel requests find the row.
  upsertScrapedPage .markPending orgId url urlHash fun page => { page with status := .PENDING }
  let jobId ← enqueueScrapingJob orgId url urlHash priority
  markScraped orgId urlHash
  return .queued urlHash jobId

def ScrapedPage.isFresh (page : ScrapedPage) (now : Nat) : Bool :=
  page.status == .COMPLETED && page.lastScrapedAt.any fun scraped =>
    (now : Int) - scraped < setup.freshnessTtlMs

def checkAndEnqueue (orgId : Nat) (url : String) (priority : Option Priority := some .normal) :
    ScrapeCall EnqueueResult := do
  let web ← Program.reads (·.web)
  match validateUrl setup.parser web.dns url with
  | .error failure => return .rejected failure.message
  | .ok _ =>
    let urlHash := setup.hashUrl url
    if ← isCached orgId urlHash then return .cached urlHash
    match ← findUnique .findExisting orgId urlHash with
    | none => enqueuePage setup orgId url priority
    | some existing =>
      if existing.status = .PROCESSING then return .processing urlHash
      let now ← Program.reads (·.now)
      if existing.isFresh setup now then
        markScraped orgId urlHash
        return .fresh urlHash
      enqueuePage setup orgId url priority

/-- `DELETE /pages/:orgId/:urlHash`. -/
def deletePage (orgId : Nat) (urlHash : String) : ScrapeCall EnqueueResult := do
  match ← findUnique .findPage orgId urlHash with
  | none => Program.fail (.rejected 404 "URL not found")
  | some page =>
    invalidate orgId (setup.hashUrl page.url)
    statement .deletePage fun world =>
      ((), { world with pages := world.pages.filter fun row => !decide (row.At orgId urlHash) })
    checkAndEnqueue setup orgId page.url (some .high)

def startScrape (job : ScrapeJobData) : ScrapeCall Unit := do
  let web ← Program.reads (·.web)
  match validateUrl setup.parser web.dns job.url with
  | .error failure => Program.fail (.javascript "ScraperValidationError" failure.message)
  | .ok _ =>
    upsertScrapedPage .markProcessing job.org_id job.url job.url_hash fun page =>
      { page with status := .PROCESSING }

def failPage {α : Type} (job : ScrapeJobData) (message : String) : ScrapeCall α := do
  upsertScrapedPage .markFailed job.org_id job.url job.url_hash fun page =>
    { page with status := .FAILED, errorMessage := some ((Json.units message).take 500) }
  Program.fail (.javascript "Error" message)

def receivePage (job : ScrapeJobData) : Except String FetchedPage → ScrapeCall FetchedPage
  | .error message => failPage job message
  | .ok page => pure page

def fetchStatically (job : ScrapeJobData) : ScrapeCall FetchedPage := do
  let web ← Program.reads (·.web)
  let fetched := fetchPage web setup.maxPageBytes setup.decode setup.parser job.url
  Program.modify fun world => { world with connected := world.connected ++ fetched.1 }
  receivePage job fetched.2

structure Scraped where
  parsed : ParsedPage
  byteLength : Nat
  fetchType : FetchType

def richest (web : Web) (url : String) (page : FetchedPage) (parsed : ParsedPage) : Scraped :=
  -- The page as it is scraped, with the browser's help where that finds more words.
  let static : Scraped := { parsed, byteLength := page.byteLength, fetchType := .static }
  if isSpaWithThinContent setup parsed page.html then
    match web.puppeteerFetchPage url with
    | .error _ => static
    | .ok rendered =>
      match setup.parseHtml rendered.html url with
      | .error _ => static
      | .ok renderedParsed =>
        if parsed.wordCount < renderedParsed.wordCount then
          { parsed := renderedParsed, byteLength := rendered.byteLength, fetchType := .puppeteer }
        else static
  else static

def ScrapeWorld.storedHash (world : ScrapeWorld) (job : ScrapeJobData) : Option String :=
  -- An empty hash is as good as none.
  ((world.findPage job.org_id job.url_hash).bind (·.contentHash)).filter (· ≠ "")

def embedPage (job : ScrapeJobData) (scraped : Scraped) : ScrapeCall ScrapeResult := do
  let embeddingText := buildEmbeddingText scraped.parsed
  let contentHash := setup.hashContent embeddingText
  let record ← findUnique .findHash job.org_id job.url_hash
  let now ← Program.reads (·.now)
  -- An empty hash is as good as none.
  let stored := (record.bind (·.contentHash)).filter (· ≠ "")
  if stored = some contentHash then
    upsertScrapedPage .markCompleted job.org_id job.url job.url_hash fun page =>
      { page with status := .COMPLETED, lastScrapedAt := some now, errorMessage := none }
    markScraped job.org_id (setup.hashUrl job.url)
    return .skipped contentHash
  let _ ← enqueueProcessDocument job.org_id job.url_hash embeddingText
    { url := job.url, content_hash := contentHash, source := job.url, title := scraped.parsed.title
      scraped_at := now, word_count := scraped.parsed.wordCount, byte_length := scraped.byteLength }
  upsertScrapedPage .markCompleted job.org_id job.url job.url_hash fun page =>
    { page with
      status := .COMPLETED
      contentHash := some contentHash
      lastScrapedAt := some now
      lastEmbeddedAt := some now
      errorMessage := none
      chunkCount := (scraped.parsed.wordCount + 99) / 100 }
  markScraped job.org_id (setup.hashUrl job.url)
  return .success contentHash scraped.parsed.wordCount scraped.fetchType

def extractPage (job : ScrapeJobData) (page : FetchedPage) : ScrapeCall ScrapeResult := do
  let web ← Program.reads (·.web)
  match setup.parseHtml page.html job.url with
  | .error message => Program.fail (.javascript "Error" message)
  | .ok parsed =>
    let scraped := richest setup web job.url page parsed
    if scraped.parsed.body = "" ∧ scraped.parsed.title = "" then
      failPage job "No meaningful content extracted from page"
    else embedPage setup job scraped

def finishScrape (job : ScrapeJobData) : ScrapeCall ScrapeResult := do
  let page ← fetchStatically setup job
  extractPage setup job page

def processScrapeJob (job : ScrapeJobData) : ScrapeCall ScrapeResult := do
  startScrape setup job
  finishScrape setup job

def ScrapedPage.Stale (orgId cutoff : Nat) (page : ScrapedPage) : Prop :=
  page.orgId = orgId ∧ page.createdAt < cutoff ∧
    (page.status = .COMPLETED ∨ page.status = .FAILED ∨ page.status = .STALE)

instance (orgId cutoff : Nat) (page : ScrapedPage) : Decidable (page.Stale orgId cutoff) :=
  inferInstanceAs (Decidable (_ ∧ _))

def markAndInvalidate (orgId : Nat) (staleRows : List ScrapedPage) (queued : Bool) :
    ScrapeCall (Nat × Bool) := do
  statement (.markStale orgId) fun world => ((), world.markStale (staleRows.map (·.id)))
  let _ ← staleRows.mapM fun page => invalidate orgId (setup.hashUrl page.url)
  return (staleRows.length, queued)

/-- How many rows have been marked, and whether a job of the bridge deletes their vectors. -/
def deleteStalePages (orgId cutoff : Nat) : ScrapeCall (Nat × Bool) := do
  let staleRows ← statement (.findStale orgId) fun world =>
    (world.pages.filter fun page => decide (page.Stale orgId cutoff), world)
  if staleRows = [] then return (0, false)
  let queued ← enqueueDeleteDocuments orgId (staleRows.map (·.urlHash))
  markAndInvalidate setup orgId staleRows queued

def ScrapedPage.Purged (orgId : Nat) (olderThan : Int) (page : ScrapedPage) : Prop :=
  page.orgId = orgId ∧ page.status = .STALE ∧ (page.updatedAt : Int) < olderThan

instance (orgId : Nat) (olderThan : Int) (page : ScrapedPage) :
    Decidable (page.Purged orgId olderThan) :=
  inferInstanceAs (Decidable (_ ∧ _))

def purgeStaleDbRows (orgId : Nat) (olderThan : Int) : ScrapeCall Nat :=
  statement (.purge orgId) fun world =>
    ((world.pages.filter fun page => decide (page.Purged orgId olderThan)).length,
      { world with pages := world.pages.filter fun page => !decide (page.Purged orgId olderThan) })

structure CleanupResult where
  orgsProcessed : Nat := 0
  errors : Nat := 0
  markedStale : Nat := 0
  purgedRows : Nat := 0
  deriving DecidableEq, Repr

def purgeWindowMs : Nat := 25 * 60 * 60 * 1000

def cleanupOrg (cutoff : Nat) (purgeAt : Int) (result : CleanupResult) (orgId : Nat) :
    ScrapeCall CleanupResult :=
  -- An organisation that fails is counted, and the cleanup goes on.
  (do
    let (deleted, _) ← deleteStalePages setup orgId cutoff
    let purged ← purgeStaleDbRows orgId purgeAt
    return { result with
      orgsProcessed := result.orgsProcessed + 1
      markedStale := result.markedStale + deleted
      purgedRows := result.purgedRows + purged }).recover fun _ =>
    pure { result with errors := result.errors + 1 }

def runScrapeCleanup : ScrapeCall CleanupResult := do
  let now ← Program.reads (·.now)
  -- No row is older than the epoch.
  let cutoff := now - setup.retentionMs
  let purgeAt := (now : Int) - purgeWindowMs
  let orgs ← statement .findOrgs fun world => ((world.pages.map (·.orgId)).dedup, world)
  orgs.foldlM (cleanupOrg setup cutoff purgeAt) {}

end Service

/-- What the scraper finds around it. -/
structure Surroundings where
  web : Web
  -- The time that has passed.
  elapsed : Nat := 0
  cached : Nat → String → Bool := fun _ _ => false
  cacheClient : Bool := true
  scraperQueue : Bool := true
  bridgeQueue : Bool := true
  fails : Statement → Bool := fun _ => false

def ScrapeWorld.within (world : ScrapeWorld) (around : Surroundings) : ScrapeWorld :=
  { world with
    web := around.web
    now := world.now + around.elapsed
    cached := around.cached
    cacheClient := around.cacheClient
    scraperQueue := around.scraperQueue
    bridgeQueue := around.bridgeQueue
    fails := around.fails }

def ScrapeWorld.fresh (around : Surroundings) : ScrapeWorld :=
  -- The scraper before any page has been enqueued.
  ({ web := around.web } : ScrapeWorld).within around

end HelpForge.Scraper
