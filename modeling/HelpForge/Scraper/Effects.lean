import HelpForge.Scraper.Service

set_option autoImplicit false

/-!
# What the statements of the scraper do
-/

namespace HelpForge.Scraper

open Lib Program

variable {α : Type} {world : ScrapeWorld} {inv : ScrapeWorld → Prop} (name : Statement)
  (body : ScrapeWorld → α × ScrapeWorld)

theorem run_statement (world : ScrapeWorld) :
    (statement name body).run world =
      if world.fails name then (.error (.unavailable "statement"), world)
      else (.ok (body world).1, (body world).2) := by
  rw [statement, run_attempt]
  by_cases fails : world.fails name = true <;> simp [fails]

theorem wp_statement (post : Except ServiceError α → ScrapeWorld → Prop) (world : ScrapeWorld) :
    wp (statement name body) post world ↔
      (world.fails name = true → post (.error (.unavailable "statement")) world) ∧
        (world.fails name = false → post (.ok (body world).1) (body world).2) := by
  unfold wp
  rw [run_statement]
  by_cases fails : world.fails name = true <;> simp [fails]

theorem keeps_statement {name : Statement} {body : ScrapeWorld → α × ScrapeWorld}
    (kept : ∀ world, inv world → inv (body world).2) : Keeps inv (statement name body) := by
  refine Keeps.attempt fun world value reached holds outcome => ?_
  split_ifs at outcome with fails
  have left : reached = (body world).2 := by
    have same : body world = (value, reached) := by simpa using outcome
    rw [same]
  rw [left]
  exact kept world holds

theorem keeps_findUnique (orgId : Nat) (urlHash : String) :
    Keeps inv (findUnique name orgId urlHash) :=
  keeps_statement fun _ holds => holds

theorem keeps_upsert {name : Statement} {orgId : Nat} {url urlHash : String}
    {data : ScrapedPage → ScrapedPage}
    (kept : ∀ world, inv world → inv (world.upsert orgId url urlHash data)) :
    Keeps inv (upsertScrapedPage name orgId url urlHash data) :=
  keeps_statement kept

theorem keeps_cacheStatement {name : Statement} {change : ScrapeWorld → ScrapeWorld}
    (kept : ∀ world, inv world → inv (change world)) : Keeps inv (cacheStatement name change) := by
  refine Keeps.modify fun world holds => ?_
  split_ifs
  · exact kept world holds
  · exact holds

theorem wp_enqueueBridgeJob (job : BridgeJob) (post : Except ServiceError Bool → ScrapeWorld → Prop)
    (world : ScrapeWorld) :
    wp (enqueueBridgeJob name job) post world ↔
      (world.bridgeQueue = false → post (.ok false) world) ∧
        (world.bridgeQueue = true →
          (world.fails name = true → post (.error (.unavailable "statement")) world) ∧
            (world.fails name = false →
              post (.ok true) { world with bridge := world.bridge ++ [job] })) := by
  unfold enqueueBridgeJob
  rw [wp_reads_bind]
  by_cases connected : world.bridgeQueue = true
  · simp [connected, wp_statement]
  · simp [connected, wp_pure]

theorem keeps_enqueueBridgeJob {name : Statement} {job : BridgeJob}
    (kept : ∀ world, inv world → inv { world with bridge := world.bridge ++ [job] }) :
    Keeps inv (enqueueBridgeJob name job) := by
  refine (Keeps.reads _).bind fun connected => ?_
  by_cases off : (!connected) = true
  · rw [if_pos off]
    exact Keeps.pure _
  · rw [if_neg off]
    exact keeps_statement kept

def ScrapeWorld.taken (world : ScrapeWorld) (job : ScrapeJobData) : ScrapeWorld :=
  -- The job's row is marked as in the hands of a worker.
  world.upsert job.org_id job.url job.url_hash fun page => { page with status := .PROCESSING }

theorem run_startScrape (setup : ScraperSetup) (job : ScrapeJobData) (world : ScrapeWorld) :
    (startScrape setup job).run world =
      match validateUrl setup.parser world.web.dns job.url with
      | .error failure =>
        (.error (.javascript "ScraperValidationError" failure.message), world)
      | .ok _ =>
        if world.fails .markProcessing then (.error (.unavailable "statement"), world)
        else (.ok (), world.taken job) := by
  unfold startScrape
  rw [run_bind, run_reads]
  cases validated : validateUrl setup.parser world.web.dns job.url with
  | error failure => simp [validated]
  | ok parsed =>
    simp only [validated]
    rw [upsertScrapedPage, run_statement]
    rfl

def ScrapeWorld.staleRows (world : ScrapeWorld) (orgId cutoff : Nat) : List ScrapedPage :=
  -- The rows that a cleanup marks.
  world.pages.filter fun page => decide (page.Stale orgId cutoff)

theorem run_deleteStalePages (setup : ScraperSetup) (orgId cutoff : Nat) (world : ScrapeWorld) :
    (deleteStalePages setup orgId cutoff).run world =
      if world.fails (.findStale orgId) then (.error (.unavailable "statement"), world)
      else if world.staleRows orgId cutoff = [] then (.ok (0, false), world)
      else if world.bridgeQueue then
        if world.fails (.addDeleteDocuments orgId) then
          (.error (.unavailable "statement"), world)
        else
          (markAndInvalidate setup orgId (world.staleRows orgId cutoff) true).run
            { world with bridge := world.bridge ++
                [.deleteDocuments orgId ((world.staleRows orgId cutoff).map (·.urlHash))] }
      else (markAndInvalidate setup orgId (world.staleRows orgId cutoff) false).run world := by
  unfold deleteStalePages
  rw [run_bind, run_statement]
  by_cases looked : world.fails (.findStale orgId) = true
  · simp [looked]
  rw [if_neg looked, if_neg looked]
  have rows : (world.pages.filter fun page => decide (page.Stale orgId cutoff)) =
      world.staleRows orgId cutoff := rfl
  rw [rows]
  dsimp only
  by_cases none : world.staleRows orgId cutoff = []
  · rw [if_pos none, if_pos none, run_pure]
  rw [if_neg none, if_neg none, enqueueDeleteDocuments, enqueueBridgeJob, bind_assoc, run_bind,
    run_reads]
  by_cases connected : world.bridgeQueue = true
  · rw [if_pos connected]
    dsimp only
    rw [if_neg (by simp [connected]), run_bind, run_statement]
    split_ifs <;> rfl
  · simp [connected]

def KeepsKey (data : ScrapedPage → ScrapedPage) : Prop :=
  -- What is written to a row leaves its key.
  ∀ page, (data page).orgId = page.orgId ∧ (data page).urlHash = page.urlHash

def ScrapeWorld.newPage (world : ScrapeWorld) (orgId : Nat) (url urlHash : String) : ScrapedPage :=
  -- The row that an upsert creates, before the data are in it.
  { id := world.nextId, orgId, url, urlHash, createdAt := world.now, updatedAt := world.now }

section Rows

variable {orgId : Nat} {url urlHash : String} {data : ScrapedPage → ScrapedPage} {page : ScrapedPage}

theorem findPage_some (found : world.findPage orgId urlHash = some page) :
    page ∈ world.pages ∧ page.At orgId urlHash :=
  ⟨List.mem_of_find?_eq_some found, by simpa using List.find?_some found⟩

theorem not_at_of_findPage_none (absent : world.findPage orgId urlHash = none)
    (member : page ∈ world.pages) : ¬page.At orgId urlHash := by
  simpa using List.find?_eq_none.mp absent page member

theorem mem_upsert (member : page ∈ (world.upsert orgId url urlHash data).pages) :
    page ∈ world.pages ∧ ¬page.At orgId urlHash ∨
      ∃ before, before.At orgId urlHash ∧
        (before ∈ world.pages ∨
          world.findPage orgId urlHash = none ∧ before = world.newPage orgId url urlHash) ∧
        page = { data before with updatedAt := world.now } := by
  -- A row after an upsert is one of another key, or the one that has been written.
  unfold ScrapeWorld.upsert at member
  cases found : world.findPage orgId urlHash with
  | some row =>
    rw [found] at member
    obtain ⟨before, there, same⟩ := List.mem_map.mp member
    by_cases key : before.At orgId urlHash
    · rw [if_pos key] at same
      exact .inr ⟨before, key, .inl there, same.symm⟩
    · rw [if_neg key] at same
      exact .inl ⟨same ▸ there, same ▸ key⟩
  | none =>
    rw [found] at member
    rcases List.mem_append.mp member with there | new
    · exact .inl ⟨there, not_at_of_findPage_none found there⟩
    · exact .inr ⟨world.newPage orgId url urlHash, ⟨rfl, rfl⟩, .inr ⟨rfl, rfl⟩,
        List.mem_singleton.mp new⟩

theorem findPage_upsert (keeps : KeepsKey data) :
    (world.upsert orgId url urlHash data).findPage orgId urlHash =
      some { data ((world.findPage orgId urlHash).getD (world.newPage orgId url urlHash)) with
             updatedAt := world.now } := by
  have key (row : ScrapedPage) (updated : Nat) :
      ({ data row with updatedAt := updated } : ScrapedPage).At orgId urlHash ↔
        row.At orgId urlHash := by
    simp [ScrapedPage.At, keeps row]
  unfold ScrapeWorld.upsert
  cases found : world.findPage orgId urlHash with
  | some row =>
    have same : ((fun page => decide (page.At orgId urlHash)) ∘ fun page =>
        if page.At orgId urlHash then { data page with updatedAt := world.now } else page) =
        fun page : ScrapedPage => decide (page.At orgId urlHash) := by
      funext page
      by_cases at_ : page.At orgId urlHash <;> simp [at_, key]
    simp only [Option.isSome_some, if_true, ScrapeWorld.findPage, List.find?_map, same]
    rw [show world.pages.find? (fun page => decide (page.At orgId urlHash)) = some row from found]
    simp [(findPage_some found).2]
  | none =>
    simp only [Option.isSome_none, Bool.false_eq_true, if_false, ScrapeWorld.findPage,
      List.find?_append]
    rw [show world.pages.find? (fun page => decide (page.At orgId urlHash)) = none from found]
    have new : (world.newPage orgId url urlHash).At orgId urlHash := ⟨rfl, rfl⟩
    have at_ := (key (world.newPage orgId url urlHash) world.now).mpr new
    simp only [Option.none_or, Option.getD_none]
    exact List.find?_cons_of_pos (decide_eq_true at_)

def ScrapeWorld.OneRowEach (world : ScrapeWorld) : Prop :=
  -- No two rows have the same key.
  ∀ first ∈ world.pages, ∀ second ∈ world.pages, first.At second.orgId second.urlHash →
    first = second

theorem oneRowEach_upsert (keeps : KeepsKey data) (one : world.OneRowEach) :
    (world.upsert orgId url urlHash data).OneRowEach := by
  intro first there second other same
  have key (before : ScrapedPage) (at_ : before.At orgId urlHash) :
      ({ data before with updatedAt := world.now } : ScrapedPage).At orgId urlHash :=
    ⟨(keeps before).1.trans at_.1, (keeps before).2.trans at_.2⟩
  rcases mem_upsert there with ⟨old, apart⟩ | ⟨before, at_, origin, rfl⟩ <;>
    rcases mem_upsert other with ⟨old', apart'⟩ | ⟨before', at', origin', rfl⟩
  · exact one first old second old' same
  · have at' := key before' at'
    exact absurd ⟨same.1.trans at'.1, same.2.trans at'.2⟩ apart
  · have at_ := key before at_
    exact absurd ⟨same.1.symm.trans at_.1, same.2.symm.trans at_.2⟩ apart'
  · have alike : before = before' := by
      rcases origin with old | ⟨absent, rfl⟩ <;> rcases origin' with old' | ⟨absent', rfl⟩
      · exact one before old before' old' ⟨at_.1.trans at'.1.symm, at_.2.trans at'.2.symm⟩
      · exact absurd at_ (not_at_of_findPage_none absent' old)
      · exact absurd at' (not_at_of_findPage_none absent old')
      · rfl
    rw [alike]

theorem findPage_of_mem (one : world.OneRowEach) (member : page ∈ world.pages)
    (key : page.At orgId urlHash) : world.findPage orgId urlHash = some page := by
  cases found : world.findPage orgId urlHash with
  | none => exact absurd key (not_at_of_findPage_none found member)
  | some row =>
    obtain ⟨there, at_⟩ := findPage_some found
    have same := one row there page member ⟨at_.1.trans key.1.symm, at_.2.trans key.2.symm⟩
    rw [same]

theorem upsert_frame (world : ScrapeWorld) (orgId : Nat) (url urlHash : String)
    (data : ScrapedPage → ScrapedPage) :
    let left := world.upsert orgId url urlHash data
    left.connected = world.connected ∧ left.web = world.web ∧ left.fails = world.fails ∧
      left.bridge = world.bridge ∧ left.documents = world.documents ∧
      left.bridgeQueue = world.bridgeQueue ∧ left.jobs = world.jobs ∧ left.now = world.now := by
  dsimp only
  unfold ScrapeWorld.upsert
  split_ifs <;> exact ⟨rfl, rfl, rfl, rfl, rfl, rfl, rfl, rfl⟩

end Rows

variable {priority : Option Priority}

section Programs

variable {setup : ScraperSetup} {job : ScrapeJobData}

def SurvivesWrites (inv : ScrapeWorld → Prop) (orgId : Nat) (url urlHash : String) : Prop :=
  -- The invariant is one that the writes to the row of a page leave alone.
  ∀ world data, KeepsKey data → inv world → inv (world.upsert orgId url urlHash data)

theorem keeps_failPage (writes : SurvivesWrites inv job.org_id job.url job.url_hash)
    (message : String) : Keeps inv (failPage job message : ScrapeCall α) :=
  Keeps.bind (keeps_upsert fun world => writes world _ fun _ => ⟨rfl, rfl⟩) fun _ => Keeps.fail _

section SurvivesWrites

variable (writes : SurvivesWrites inv job.org_id job.url job.url_hash)
  (queues : ∀ world bridgeJob, inv world → inv { world with bridge := world.bridge ++ [bridgeJob] })
  (marks : ∀ world urlHash, inv world → inv (world.setCached job.org_id urlHash true))

include writes queues marks

theorem keeps_embedPage (scraped : Scraped) : Keeps inv (embedPage setup job scraped) := by
  have marked : Keeps inv (markScraped job.org_id (setup.hashUrl job.url)) :=
    keeps_cacheStatement fun world => marks world _
  refine Keeps.bind (keeps_findUnique _ _ _) fun record => Keeps.bind (Keeps.reads _) fun now => ?_
  dsimp only
  split_ifs
  · exact Keeps.bind (keeps_upsert fun world => writes world _ fun _ => ⟨rfl, rfl⟩) fun _ =>
      Keeps.bind marked fun _ => Keeps.pure _
  · have queued (metadata : PageMetadata) : Keeps inv
        (enqueueProcessDocument job.org_id job.url_hash (buildEmbeddingText scraped.parsed)
          metadata) :=
      keeps_enqueueBridgeJob fun world => queues world _
    exact Keeps.bind (queued _) fun _ =>
      Keeps.bind (keeps_upsert fun world => writes world _ fun _ => ⟨rfl, rfl⟩) fun _ =>
        Keeps.bind marked fun _ => Keeps.pure _

theorem keeps_extractPage (page : FetchedPage) : Keeps inv (extractPage setup job page) := by
  refine Keeps.bind (Keeps.reads _) fun web => ?_
  cases setup.parseHtml page.html job.url with
  | error message => exact Keeps.fail _
  | ok parsed =>
    dsimp only
    split_ifs
    · exact keeps_failPage writes _
    · exact keeps_embedPage writes queues marks _

end SurvivesWrites

def afterFetch (setup : ScraperSetup) (job : ScrapeJobData)
    (fetched : Except String FetchedPage) : ScrapeCall ScrapeResult :=
  -- What the job does once its page has been fetched.
  receivePage job fetched >>= extractPage setup job

theorem afterFetch_failed (message : String) :
    afterFetch setup job (.error message) = failPage job message := by
  unfold afterFetch receivePage failPage
  rw [Program.bind_assoc]
  rfl

theorem afterFetch_fetched (page : FetchedPage) :
    afterFetch setup job (.ok page) = extractPage setup job page := rfl

theorem run_finishScrape (world : ScrapeWorld) :
    (finishScrape setup job).run world =
      let fetched := fetchPage world.web setup.maxPageBytes setup.decode setup.parser job.url
      (afterFetch setup job fetched.2).run
        { world with connected := world.connected ++ fetched.1 } := by
  unfold finishScrape fetchStatically
  rw [Program.bind_assoc, run_bind, run_reads]
  dsimp only
  rw [Program.bind_assoc, run_bind, run_modify]
  rfl

theorem keeps_afterFetch (writes : SurvivesWrites inv job.org_id job.url job.url_hash)
    (queues : ∀ world bridgeJob, inv world → inv { world with bridge := world.bridge ++ [bridgeJob] })
    (marks : ∀ world urlHash, inv world → inv (world.setCached job.org_id urlHash true))
    (fetched : Except String FetchedPage) : Keeps inv (afterFetch setup job fetched) := by
  refine Keeps.bind ?_ fun page => keeps_extractPage writes queues marks page
  cases fetched with
  | error message => exact keeps_failPage writes message
  | ok page => exact Keeps.pure page

theorem keeps_enqueuePage {orgId : Nat} {url : String}
    (writes : ∀ world, inv world → inv (world.upsert orgId url (setup.hashUrl url) fun page =>
      { page with status := .PENDING }))
    (adds : ∀ world scrapeJob, inv world → inv (world.addJob scrapeJob))
    (marks : ∀ world urlHash, inv world → inv (world.setCached orgId urlHash true)) :
    Keeps inv (enqueuePage setup orgId url priority) := by
  have added : Keeps inv (enqueueScrapingJob orgId url (setup.hashUrl url) priority) := by
    refine Keeps.bind (Keeps.reads _) fun connected => ?_
    by_cases off : (!connected) = true
    · rw [if_pos off]
      exact Keeps.pure _
    · rw [if_neg off]
      exact keeps_statement fun world => adds world _
  exact Keeps.bind (keeps_upsert writes) fun _ => Keeps.bind added fun _ =>
    Keeps.bind (keeps_cacheStatement fun world => marks world _) fun _ => Keeps.pure _

theorem keeps_checkAndEnqueue {orgId : Nat} {url : String}
    (writes : ∀ world, inv world → inv (world.upsert orgId url (setup.hashUrl url) fun page =>
      { page with status := .PENDING }))
    (adds : ∀ world scrapeJob, inv world → inv (world.addJob scrapeJob))
    (marks : ∀ world urlHash, inv world → inv (world.setCached orgId urlHash true)) :
    Keeps inv (checkAndEnqueue setup orgId url priority) := by
  have enqueued : Keeps inv (enqueuePage setup orgId url priority) :=
    keeps_enqueuePage writes adds marks
  refine Keeps.bind (Keeps.reads _) fun web => ?_
  cases validateUrl setup.parser web.dns url with
  | error failure => exact Keeps.pure _
  | ok parsed =>
    refine Keeps.bind (Keeps.reads _) fun cached => ?_
    split_ifs
    · exact Keeps.pure _
    · refine Keeps.bind (keeps_findUnique _ _ _) fun existing => ?_
      cases existing with
      | none => exact enqueued
      | some existing =>
        dsimp only
        split_ifs
        · exact Keeps.pure _
        · refine Keeps.bind (Keeps.reads _) fun now => ?_
          split_ifs
          · exact Keeps.bind (keeps_cacheStatement fun world => marks world _) fun _ => Keeps.pure _
          · exact enqueued

end Programs

/-- Two URLs, of a shop and of the metadata service of its cloud. -/
def shopUrl : Url := { href := "http://shop.com/", protocol := "http:", hostname := "shop.com" }

def metadataUrl : Url :=
  { href := "http://169.254.169.254/", protocol := "http:", hostname := "169.254.169.254" }

def shopSetup : ScraperSetup where
  parser :=
    { parse := fun text => [shopUrl, metadataUrl].find? (·.href == text)
      bracketed := by
        intro text url found bracket
        have known : url = shopUrl ∨ url = metadataUrl := by
          simpa using List.mem_of_find?_eq_some found
        rcases known with rfl | rfl <;> revert bracket <;> decide }
  hashUrl := id
  hashContent := id
  decode := fun bytes => String.ofList (bytes.map fun byte => Char.ofNat byte.toNat)
  parseHtml := fun html _ => .ok { body := html }
  thinWordThreshold := 0

def shopWeb : Web where
  dns := { a := fun host => if host = "shop.com" then .ok ["93.184.216.34"] else .error "ENOTFOUND"
           aaaa := fun _ => [] }
  redirectTarget := fun _ location => shopSetup.parser.parse location
  reply := fun urls =>
    if urls = [shopUrl] then .redirect metadataUrl.href else .respond { status := 200 }
  puppeteerFetchPage := fun _ => .error "disabled"

/-- The shop's page, as it is fetched without being redirected. -/
def shopPage : Surroundings where
  web := { shopWeb with
    reply := fun _ =>
      .respond { status := 200, contentType := some "text/html", body := [[104, 105]] } }

def shopJob : ScrapeJobData := { org_id := 1, url := shopUrl.href, url_hash := shopUrl.href }

end HelpForge.Scraper
