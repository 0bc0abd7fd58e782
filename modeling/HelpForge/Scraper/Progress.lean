import HelpForge.Scraper.Queue

set_option autoImplicit false

namespace HelpForge.Scraper

open Lib Machine Program

section Conditions

variable (setup : ScraperSetup)

structure MarksPending (world : ScrapeWorld) (orgId : Nat) (url : String) : Prop where
  valid : (validateUrl setup.parser world.web.dns url).isOk = true
  uncached : (world.cacheClient && !world.fails .isCached &&
    world.cached orgId (setup.hashUrl url)) = false
  finds : world.fails .findExisting = false
  due : ∀ existing ∈ world.findPage orgId (setup.hashUrl url),
    existing.status ≠ .PROCESSING ∧ existing.isFresh setup world.now = false
  marks : world.fails .markPending = false

/-- The queue takes a new job for the page: it is there, the add does not fail, and no job of the
page is retained. -/
structure TakesJob (world : ScrapeWorld) (orgId : Nat) (urlHash : String) : Prop where
  connected : world.scraperQueue = true
  adds : world.fails .addScrapingJob = false
  new : ∀ job ∈ world.jobs, job.id ≠ scrapeJobId orgId urlHash

def SoundRequest (world : ScrapeWorld) (orgId : Nat) (url : String) : Prop :=
  MarksPending setup world orgId url →
    world.HasLiveJob orgId (setup.hashUrl url) ∨ TakesJob world orgId (setup.hashUrl url)

def ScrapeWorld.forgotten (world : ScrapeWorld) (orgId : Nat) (page : ScrapedPage) : ScrapeWorld :=
  -- The world in which the route asks for the page again.
  let evicted :=
    if world.cacheClient && !world.fails (.invalidate (setup.hashUrl page.url)) then
      world.setCached orgId (setup.hashUrl page.url) false
    else world
  { evicted with pages := world.pages.filter fun row => !decide (row.At orgId page.urlHash) }

def SoundRoute (world : ScrapeWorld) (orgId : Nat) (urlHash : String) : Prop :=
  world.fails .findPage = false → world.fails .deletePage = false →
    ∀ page ∈ world.findPage orgId urlHash,
      SoundRequest setup (world.forgotten setup orgId page) orgId page.url

def CannotStart (world : ScrapeWorld) (job : ScrapeJobData) : Prop :=
  -- The worker cannot start on the job.
  (validateUrl setup.parser world.web.dns job.url).isOk = false ∨
    world.fails .markProcessing = true

inductive Finding where
  | nothing
  | unreadable
  | content (contentHash : String)
  deriving DecidableEq

def finding (web : Web) (job : ScrapeJobData) : Finding :=
  -- A page that cannot be fetched, or has no content, is nothing.
  match (fetchPage web setup.maxPageBytes setup.decode setup.parser job.url).2 with
  | .error _ => .nothing
  | .ok page =>
    match setup.parseHtml page.html job.url with
    | .error _ => .unreadable
    | .ok parsed =>
      let scraped := richest setup web job.url page parsed
      if scraped.parsed.body = "" ∧ scraped.parsed.title = "" then .nothing
      else .content (setup.hashContent (buildEmbeddingText scraped.parsed))

def EndsMarked (world : ScrapeWorld) (job : ScrapeJobData) : Prop :=
  -- The worker ends with a mark in the row that the page is completed or failed.
  match finding setup world.web job with
  | .nothing => world.fails .markFailed = false
  | .unreadable => False
  | .content contentHash =>
    world.fails .findHash = false ∧ world.fails .markCompleted = false ∧
      (world.storedHash job = some contentHash ∨ world.bridgeQueue = false ∨
        world.fails .addProcessDocument = false)

def ScrapeJob.lastAttempt (job : ScrapeJob) : Bool := attempts ≤ job.attemptsMade + 1

def SoundStart (world : ScrapeWorld) (id : String) : Prop :=
  -- On its last attempt a job that cannot be started has been marked as failed.
  ∀ job ∈ world.findJob id .waiting, job.lastAttempt = true → CannotStart setup world job.data →
    ∀ page ∈ world.findPage job.data.org_id job.data.url_hash, page.status = .FAILED

def SoundFinish (world : ScrapeWorld) (id : String) : Prop :=
  -- A last attempt ends with a mark in the row, if there is a row.
  ∀ job ∈ world.findJob id .active, job.lastAttempt = true →
    EndsMarked setup world job.data ∨
      world.findPage job.data.org_id job.data.url_hash = none

def Orderly (world : ScrapeWorld) : QueueEvent → Prop
  | .checkAndEnqueue orgId url _ => SoundRequest setup world orgId url
  | .deletePage orgId urlHash => SoundRoute setup world orgId urlHash
  | .take id => SoundStart setup world id
  | .finish id => SoundFinish setup world id
  | _ => True

end Conditions

section Finish

variable {setup : ScraperSetup} {job : ScrapeJobData} {world : ScrapeWorld}

def Ends (world : ScrapeWorld) (job : ScrapeJobData) (marks : Prop)
    (outcome : Except ServiceError ScrapeResult) (reached : ScrapeWorld) : Prop :=
  -- Where the row is marked, the attempt's success tells how. Otherwise the attempt has failed.
  (marks → Marked world reached job.org_id job.url_hash
    (if succeeds outcome then .COMPLETED else .FAILED)) ∧
  (¬marks → succeeds outcome = false ∧ reached.pages = world.pages)

theorem failPage_ends (message : String) :
    wp (failPage job message) (Ends world job (world.fails .markFailed = false)) world := by
  unfold failPage
  rw [wp_bind, upsertScrapedPage, wp_statement]
  refine ⟨fun fails => ⟨fun marks => absurd fails (by simp [marks]), fun _ => ⟨rfl, rfl⟩⟩,
    fun marks => ⟨fun _ => ?_, fun unmarked => absurd marks unmarked⟩⟩
  have marked : Marked world (world.upsert job.org_id job.url job.url_hash fun page =>
      { page with status := .FAILED, errorMessage := some ((Json.units message).take 500) })
      job.org_id job.url_hash .FAILED :=
    marked_upsert world (fun _ => ⟨rfl, rfl⟩) fun _ => rfl
  exact marked

theorem embedPage_ends (scraped : Scraped) :
    let hash := setup.hashContent (buildEmbeddingText scraped.parsed)
    wp (embedPage setup job scraped)
      (Ends world job (world.fails .findHash = false ∧ world.fails .markCompleted = false ∧
        (world.storedHash job = some hash ∨ world.bridgeQueue = false ∨
          world.fails .addProcessDocument = false))) world := by
  intro hash
  let marks : Prop := world.fails .findHash = false ∧ world.fails .markCompleted = false ∧
    (world.storedHash job = some hash ∨ world.bridgeQueue = false ∨
      world.fails .addProcessDocument = false)
  have failed {failure : ServiceError} (unmarked : ¬marks) :
      Ends world job marks (.error failure) world :=
    ⟨fun marked => absurd marked unmarked, fun _ => ⟨rfl, rfl⟩⟩
  have completing (left : ScrapeWorld) (data : ScrapedPage → ScrapedPage) (result : ScrapeResult)
      (rows : left.pages = world.pages) (fails : left.fails = world.fails)
      (finds : world.fails .findHash = false)
      (way : world.storedHash job = some hash ∨ world.bridgeQueue = false ∨
        world.fails .addProcessDocument = false)
      (keeps : KeepsKey data) (sets : ∀ page, (data page).status = .COMPLETED) :
      wp (do
          upsertScrapedPage .markCompleted job.org_id job.url job.url_hash data
          markScraped job.org_id (setup.hashUrl job.url)
          return result) (Ends world job marks) left := by
    rw [wp_bind, upsertScrapedPage, wp_statement, fails]
    refine ⟨fun broken => ⟨fun marked => absurd broken (by simp [marked.2.1]),
      fun _ => ⟨rfl, rows⟩⟩, fun works => ?_⟩
    have marked : Marked world (left.upsert job.org_id job.url job.url_hash data) job.org_id
        job.url_hash .COMPLETED :=
      (marked_upsert left keeps sets).of_rows rows
    rw [wp_bind, markScraped, cacheStatement, wp_modify]
    dsimp only
    rw [wp_pure]
    refine ⟨fun _ => ?_, fun unmarked => absurd ⟨finds, works, way⟩ unmarked⟩
    have cached : Keeps (fun reached => Marked world reached job.org_id job.url_hash .COMPLETED)
        (markScraped job.org_id (setup.hashUrl job.url)) :=
      keeps_cacheStatement fun _ marked => ⟨marked.there, marked.rows, marked.one⟩
    exact cached _ marked
  unfold embedPage
  rw [wp_bind, findUnique, wp_statement]
  refine ⟨fun fails => failed fun marked => absurd fails (by simp [marked.1]), fun finds => ?_⟩
  dsimp only
  rw [wp_reads_bind]
  split_ifs with same
  · exact completing world _ _ rfl rfl finds (.inl same) (fun _ => by simp) fun _ => by rfl
  · rw [wp_bind, enqueueProcessDocument, wp_enqueueBridgeJob]
    refine ⟨fun off => ?_, fun on => ⟨fun fails => failed ?_, fun adds => ?_⟩⟩
    · exact completing world _ _ rfl rfl finds (.inr (.inl off)) (fun _ => by simp)
        fun _ => by rfl
    · rintro ⟨-, -, stored | off | adds⟩
      · exact same stored
      · simp [on] at off
      · simp [fails] at adds
    · exact completing _ _ _ rfl rfl finds (.inr (.inr adds)) (fun _ => by simp) fun _ => by rfl

theorem finishScrape_ends :
    wp (finishScrape setup job) (Ends world job (EndsMarked setup world job)) world := by
  unfold wp
  rw [run_finishScrape]
  dsimp only
  -- What has been connected to is no matter of the rows.
  generalize connecting : ({ world with connected := world.connected ++
    (fetchPage world.web setup.maxPageBytes setup.decode setup.parser job.url).1 } : ScrapeWorld) =
      left
  have rows : left.pages = world.pages := by rw [← connecting]
  have fails : left.fails = world.fails := by rw [← connecting]
  have web : left.web = world.web := by rw [← connecting]
  have stored : left.storedHash job = world.storedHash job := by rw [← connecting]; rfl
  have bridge : left.bridgeQueue = world.bridgeQueue := by rw [← connecting]
  suffices ended : wp (afterFetch setup job
      (fetchPage world.web setup.maxPageBytes setup.decode setup.parser job.url).2)
      (Ends left job (EndsMarked setup world job)) left by
    refine ⟨fun marks => ?_, fun unmarked => ?_⟩
    · exact (ended.1 marks).of_rows rows
    · exact ⟨(ended.2 unmarked).1, (ended.2 unmarked).2.trans rows⟩
  unfold EndsMarked finding
  cases fetched : (fetchPage world.web setup.maxPageBytes setup.decode setup.parser job.url).2 with
  | error message =>
    rw [afterFetch_failed, ← fails]
    exact failPage_ends message
  | ok page =>
    rw [afterFetch_fetched]
    unfold extractPage
    rw [wp_reads_bind, web]
    dsimp only
    cases setup.parseHtml page.html job.url with
    | error message => exact ⟨False.elim, fun _ => ⟨rfl, rfl⟩⟩
    | ok parsed =>
      dsimp only
      split_ifs with empty
      · rw [← fails]
        exact failPage_ends _
      · rw [← fails, ← stored, ← bridge]
        exact embedPage_ends _

theorem finishScrape_jobs (setup : ScraperSetup) (job : ScrapeJobData) (world : ScrapeWorld) :
    ((finishScrape setup job).run world).2.jobs = world.jobs := by
  rw [run_finishScrape]
  have keeps (fetched : Except String FetchedPage) :
      Keeps (fun reached : ScrapeWorld => reached.jobs = world.jobs)
        (afterFetch setup job fetched) := by
    refine keeps_afterFetch (fun left data _ same => ?_) (fun _ _ same => same)
      (fun _ _ same => same) fetched
    obtain ⟨-, -, -, -, -, -, jobs, -⟩ := upsert_frame left job.org_id job.url job.url_hash data
    exact jobs.trans same
  exact keeps _ _ rfl

end Finish

variable {page : ScrapedPage}

section Steps

variable {setup : ScraperSetup} {world after : ScrapeWorld}

theorem setJob_setJob (world : ScrapeWorld) (id : String) (first second : ScrapeJob → ScrapeJob)
    (same : ∀ job, (first job).id = job.id) :
    (world.setJob id first).setJob id second = world.setJob id (second ∘ first) := by
  simp only [ScrapeWorld.setJob, List.map_map]
  congr 1
  refine List.map_congr_left fun job _ => ?_
  by_cases own : job.id = id <;> simp [own, same]

theorem not_pending_of_failed (failed : page.status = .FAILED) : ¬page.Pending := by
  simp [ScrapedPage.Pending, failed]

theorem ended_state (job : ScrapeJob) (succeeded : Bool) :
    (job.ended succeeded).state =
      if succeeded then .completed else if job.lastAttempt then .failed else .delayed := by
  simp only [ScrapeJob.ended, ScrapeJob.lastAttempt, decide_eq_true_eq]
  by_cases last : attempts ≤ job.attemptsMade + 1
  · simp [last, Nat.not_lt.mpr last]
  · simp [last, Nat.not_le.mp last]

variable {job : ScrapeJob}

theorem settles_failed {change : ScrapeJob → ScrapeJob} (worked : Worked world after job change)
    (kept : Kept world) (ended : (change job).state = if job.lastAttempt then .failed else .delayed)
    (rows : after.pages = world.pages) :
    Settles world after (job.lastAttempt = true →
      ∀ page ∈ world.findPage job.data.org_id job.data.url_hash, page.status = .FAILED) := by
  -- The attempt has failed, and has left the row as it was.
  refine worked.settles kept (fun active => ?_) ?_
  · rw [ended] at active
    split_ifs at active
  · rw [ended, rows]
    by_cases last : job.lastAttempt = true
    · simp only [last, if_true, JobState.finished, forall_true_left]
      constructor
      · intro failed page found
        obtain ⟨member, key⟩ := findPage_some found
        exact failed.2 page member key
      · intro failed
        have marked : ∀ page ∈ world.pages, page.At job.data.org_id job.data.url_hash →
            page.status = .FAILED :=
          fun page member key => failed page (findPage_of_mem kept.one member key)
        exact ⟨fun page member key => not_pending_of_failed (marked page member key), marked⟩
    · simp [last, JobState.finished]

theorem run_start_blocked (id : String) (blocked : CannotStart setup world job.data) :
    ∃ failure, (startScrape setup job.data).run (world.setJob id (·.started)) =
      (.error failure, world.setJob id (·.started)) := by
  rw [run_startScrape]
  cases validated : validateUrl setup.parser world.web.dns job.data.url with
  | error failure => simp [ScrapeWorld.setJob, validated]
  | ok parsed =>
    have fails : world.fails .markProcessing = true := by
      simpa [CannotStart, validated, Except.isOk, Except.toBool] using blocked
    simp [ScrapeWorld.setJob, validated, fails]

theorem run_start_unblocked {id : String} (unblocked : ¬CannotStart setup world job.data) :
    (startScrape setup job.data).run (world.setJob id (·.started)) =
      (.ok (), (world.setJob id (·.started)).taken job.data) := by
  obtain ⟨valid, works⟩ := not_or.mp unblocked
  rw [run_startScrape]
  cases validated : validateUrl setup.parser world.web.dns job.data.url with
  | error failure => simp [validated, Except.isOk, Except.toBool] at valid
  | ok parsed => simp [ScrapeWorld.setJob, validated, works]

theorem settles_take (kept : Kept world) (id : String) :
    Settles world (take setup world id) (SoundStart setup world id) := by
  unfold take SoundStart
  cases found : world.findJob id .waiting with
  | none => exact settles_idle kept rfl rfl (by simp)
  | some job =>
    obtain ⟨there, rfl, waiting⟩ := findJob_some found
    have live : job.state.finished = false := by simp [waiting, JobState.finished]
    by_cases blocked : CannotStart setup world job.data
    · obtain ⟨failure, outcome⟩ := run_start_blocked job.id blocked
      simp only [outcome, succeeds, Bool.false_eq_true, if_false, Option.mem_def,
        Option.some.injEq, forall_eq', blocked, forall_true_left]
      rw [setJob_setJob world job.id (·.started) (·.ended false) fun _ => rfl]
      have worked : Worked world (world.setJob job.id ((·.ended false) ∘ (·.started))) job
          ((·.ended false) ∘ (·.started)) :=
        ⟨there, live, fun _ => ⟨rfl, rfl⟩, rfl, fun _ member _ => member, kept.one⟩
      exact settles_failed worked kept (ended_state job.started false) rfl
    · have marked : Marked (world.setJob job.id (·.started))
          ((world.setJob job.id (·.started)).taken job.data) job.data.org_id job.data.url_hash
          .PROCESSING :=
        marked_upsert _ (fun _ => ⟨rfl, rfl⟩) fun _ => rfl
      have worked : Worked world ((world.setJob job.id (·.started)).taken job.data) job
          (·.started) := by
        refine ⟨there, live, fun _ => ⟨rfl, rfl⟩, ?_, fun page member apart => ?_,
          marked.one kept.one⟩
        · obtain ⟨-, -, -, -, -, -, jobs, -⟩ := upsert_frame (world.setJob job.id (·.started))
            job.data.org_id job.data.url job.data.url_hash
            fun page => { page with status := .PROCESSING }
          exact jobs
        · rcases marked.rows page member with ⟨old, -⟩ | ⟨key, -⟩
          · exact old
          · exact absurd key apart
      simp only [run_start_unblocked blocked, succeeds, if_true]
      refine worked.settles kept (fun _ page member key => ?_) ?_
      · rcases marked.rows page member with ⟨-, apart⟩ | ⟨-, processing⟩
        · exact absurd key apart
        · exact .inr processing
      · simp [ScrapeJob.started, JobState.finished, blocked]

theorem settles_finish (kept : Kept world) (id : String) :
    Settles world (finish setup world id) (SoundFinish setup world id) := by
  unfold finish SoundFinish
  cases found : world.findJob id .active with
  | none => exact settles_idle kept rfl rfl (by simp)
  | some job =>
    obtain ⟨there, rfl, active⟩ := findJob_some found
    have live : job.state.finished = false := by simp [active, JobState.finished]
    have ends : Ends world job.data (EndsMarked setup world job.data)
        ((finishScrape setup job.data).run world).1 ((finishScrape setup job.data).run world).2 :=
      finishScrape_ends
    have jobs := finishScrape_jobs setup job.data world
    simp only [Option.mem_def, Option.some.injEq, forall_eq']
    generalize (finishScrape setup job.data).run world = ended at ends jobs
    have changed : (ended.2.setJob job.id (·.ended (succeeds ended.1))).jobs =
        world.jobs.map fun other =>
          if other.id = job.id then other.ended (succeeds ended.1) else other := by
      rw [← jobs]
      rfl
    by_cases marks : EndsMarked setup world job.data
    · have marked := ends.1 marks
      have worked : Worked world (ended.2.setJob job.id (·.ended (succeeds ended.1))) job
          (·.ended (succeeds ended.1)) := by
        refine ⟨there, live, fun _ => ⟨rfl, rfl⟩, changed, fun page member apart => ?_,
          marked.one kept.one⟩
        rcases marked.rows page member with ⟨old, -⟩ | ⟨key, -⟩
        · exact old
        · exact absurd key apart
      refine worked.settles kept (fun active => ?_) (iff_of_true ?_ fun _ => .inl marks)
      · rw [ended_state] at active
        split_ifs at active
      · have status (page : ScrapedPage) (member : page ∈ ended.2.pages)
            (key : page.At job.data.org_id job.data.url_hash) :
            page.status = if succeeds ended.1 then .COMPLETED else .FAILED := by
          rcases marked.rows page member with ⟨-, apart⟩ | ⟨-, status⟩
          · exact absurd key apart
          · exact status
        refine ⟨fun _ page member key pending => ?_, fun failed page member key => ?_⟩
        · rw [ScrapedPage.Pending, status page member key] at pending
          split_ifs at pending <;> simp at pending
        · rw [ended_state] at failed
          rw [status page member key]
          split_ifs at failed with succeeded
          rw [if_neg succeeded]
    · obtain ⟨unsuccessful, rows⟩ := ends.2 marks
      have worked : Worked world (ended.2.setJob job.id (·.ended (succeeds ended.1))) job
          (·.ended (succeeds ended.1)) :=
        ⟨there, live, fun _ => ⟨rfl, rfl⟩, changed, fun page member _ => rows ▸ member,
          fun first there second other => kept.one first (rows ▸ there) second (rows ▸ other)⟩
      have state : (job.ended (succeeds ended.1)).state =
          if job.lastAttempt then .failed else .delayed := by
        rw [ended_state, unsuccessful]
        rfl
      have failed := settles_failed worked kept state rows
      refine ⟨failed.1.trans ?_, failed.2⟩
      -- A worker has marked the row, so that it is there without the mark of a failure.
      refine imp_congr_right fun _ => ⟨fun failed => .inr ?_, fun found page row => ?_⟩
      · by_contra present
        obtain ⟨page, row⟩ := Option.ne_none_iff_exists'.mp present
        obtain ⟨member, key⟩ := findPage_some row
        exact not_pending_of_failed (failed page row) (kept.marked job there active page member key)
      · rcases found with marked | absent
        · exact absurd marked marks
        · rw [absent] at row
          cases row

end Steps

section Requests

variable {setup : ScraperSetup} {world after : ScrapeWorld} {orgId : Nat} {url : String}
  {priority : Option Priority}

def requestedJob (setup : ScraperSetup) (orgId : Nat) (url : String) (priority : Option Priority) :
    ScrapeJob :=
  -- The job that a request adds.
  { id := scrapeJobId orgId (setup.hashUrl url)
    data := { org_id := orgId, url, url_hash := setup.hashUrl url }
    priority := priorityMap (priority.getD .normal) }

def Requests (world : ScrapeWorld) (marks : Prop) (urlHash : String) (job : ScrapeJob)
    (reached : ScrapeWorld) : Prop :=
  -- Where the row is marked, the job is added if the queue is there and the add does not fail.
  (marks → Marked world reached job.data.org_id urlHash .PENDING ∧
    reached.jobs = if world.scraperQueue = true ∧ world.fails .addScrapingJob = false
      then (world.addJob job).jobs else world.jobs) ∧
  (¬marks → reached.pages = world.pages ∧ reached.jobs = world.jobs)

theorem jobs_addJob (world : ScrapeWorld) (job : ScrapeJob) :
    (world.addJob job).jobs =
      if world.jobs.any (·.id == job.id) then world.jobs else world.jobs ++ [job] := by
  unfold ScrapeWorld.addJob
  split_ifs <;> rfl

theorem enqueuePage_requests :
    wp (enqueuePage setup orgId url priority)
      (fun _ => Requests world (world.fails .markPending = false) (setup.hashUrl url)
        (requestedJob setup orgId url priority)) world := by
  have cached {reached : ScrapeWorld} {marks : Prop} {rest : ScrapeCall EnqueueResult}
      (pure : Keeps (Requests world marks (setup.hashUrl url)
        (requestedJob setup orgId url priority)) rest)
      (holds : Requests world marks (setup.hashUrl url) (requestedJob setup orgId url priority)
        reached) :
      wp (markScraped orgId (setup.hashUrl url) >>= fun _ => rest)
        (fun _ => Requests world marks (setup.hashUrl url)
          (requestedJob setup orgId url priority)) reached := by
    have marks : Keeps (Requests world marks (setup.hashUrl url)
        (requestedJob setup orgId url priority)) (markScraped orgId (setup.hashUrl url)) :=
      keeps_cacheStatement fun _ holds =>
        ⟨fun marks => ⟨⟨(holds.1 marks).1.there, (holds.1 marks).1.rows, (holds.1 marks).1.one⟩,
          (holds.1 marks).2⟩, holds.2⟩
    exact Keeps.bind marks (fun _ => pure) _ holds
  unfold enqueuePage
  rw [wp_bind, upsertScrapedPage, wp_statement]
  refine ⟨fun fails => ⟨fun marks => absurd fails (by simp [marks]), fun _ => ⟨rfl, rfl⟩⟩,
    fun marks => ?_⟩
  dsimp only
  have marked : Marked world (world.upsert orgId url (setup.hashUrl url) fun page =>
      { page with status := .PENDING }) orgId (setup.hashUrl url) .PENDING :=
    marked_upsert _ (fun _ => ⟨rfl, rfl⟩) fun _ => rfl
  obtain ⟨-, -, fails, -, -, -, jobs, -⟩ := upsert_frame world orgId url (setup.hashUrl url)
    fun page => { page with status := .PENDING }
  have queue : (world.upsert orgId url (setup.hashUrl url) fun page =>
      { page with status := .PENDING }).scraperQueue = world.scraperQueue := by
    unfold ScrapeWorld.upsert
    split_ifs <;> rfl
  generalize world.upsert orgId url (setup.hashUrl url) (fun page =>
    { page with status := .PENDING }) = left at marked fails jobs queue
  rw [wp_bind, enqueueScrapingJob, wp_reads_bind, queue]
  by_cases connected : world.scraperQueue = true
  · simp only [connected, Bool.not_true, Bool.false_eq_true, if_false]
    rw [wp_statement, fails]
    refine ⟨fun broken => ⟨fun _ => ⟨marked, ?_⟩, absurd marks⟩, fun adds => ?_⟩
    · rw [if_neg (by simp [broken])]
      exact jobs
    · refine cached (Keeps.pure _) ⟨fun _ => ⟨?_, ?_⟩, absurd marks⟩
      · unfold ScrapeWorld.addJob
        split_ifs <;> exact ⟨marked.there, marked.rows, marked.one⟩
      · rw [if_pos ⟨connected, adds⟩]
        change (left.addJob (requestedJob setup orgId url priority)).jobs = _
        rw [jobs_addJob, jobs_addJob, jobs]
  · simp only [connected, Bool.not_false, if_true, wp_pure]
    refine cached (Keeps.pure _) ⟨fun _ => ⟨marked, ?_⟩, absurd marks⟩
    rw [if_neg (by simp [connected])]
    exact jobs

theorem checkAndEnqueue_requests :
    wp (checkAndEnqueue setup orgId url priority)
      (fun _ => Requests world (MarksPending setup world orgId url) (setup.hashUrl url)
        (requestedJob setup orgId url priority)) world := by
  have idle {reached : ScrapeWorld} (rows : reached.pages = world.pages)
      (jobs : reached.jobs = world.jobs) (unmarked : ¬MarksPending setup world orgId url) :
      Requests world (MarksPending setup world orgId url) (setup.hashUrl url)
        (requestedJob setup orgId url priority) reached :=
    ⟨fun marks => absurd marks unmarked, fun _ => ⟨rows, jobs⟩⟩
  unfold checkAndEnqueue
  rw [wp_reads_bind]
  cases validated : validateUrl setup.parser world.web.dns url with
  | error failure =>
    refine idle rfl rfl fun marks => ?_
    have valid := marks.valid
    simp [validated, Except.isOk, Except.toBool] at valid
  | ok parsed =>
    have valid : (validateUrl setup.parser world.web.dns url).isOk = true := by
      simp [validated, Except.isOk, Except.toBool]
    dsimp only
    rw [isCached, wp_reads_bind]
    split_ifs with cached
    · exact idle rfl rfl fun marks => absurd cached (by simp [marks.uncached])
    rw [wp_bind, findUnique, wp_statement]
    refine ⟨fun fails => idle rfl rfl fun marks => absurd fails (by simp [marks.finds]),
      fun finds => ?_⟩
    have enqueued (due : ∀ existing ∈ world.findPage orgId (setup.hashUrl url),
        existing.status ≠ .PROCESSING ∧ existing.isFresh setup world.now = false) :
        wp (enqueuePage setup orgId url priority)
          (fun _ => Requests world (MarksPending setup world orgId url) (setup.hashUrl url)
            (requestedJob setup orgId url priority)) world := by
      have iff : MarksPending setup world orgId url ↔ world.fails .markPending = false :=
        ⟨fun marks => marks.marks, fun marks => ⟨valid, by simpa using cached, finds, due, marks⟩⟩
      rw [iff]
      exact enqueuePage_requests
    dsimp only
    cases found : world.findPage orgId (setup.hashUrl url) with
    | none => exact enqueued (by simp [found])
    | some existing =>
      dsimp only
      split_ifs with processing
      · exact idle rfl rfl fun marks => (marks.due existing found).1 processing
      · rw [wp_reads_bind]
        split_ifs with fresh
        · have unmarked : ¬MarksPending setup world orgId url := fun marks =>
            absurd fresh (by simp [(marks.due existing found).2])
          have marks : Keeps (fun reached : ScrapeWorld =>
              reached.pages = world.pages ∧ reached.jobs = world.jobs)
              (markScraped orgId (setup.hashUrl url)) :=
            keeps_cacheStatement fun _ same => same
          refine (Keeps.bind marks (fun _ => Keeps.pure _) world ⟨rfl, rfl⟩).weaken ?_
          intro _ reached same
          exact idle same.1 same.2 unmarked
        · refine enqueued fun other row => ?_
          have alike : existing = other := Option.some.inj (found.symm.trans row)
          rw [← alike]
          exact ⟨processing, by simpa using fresh⟩

theorem mem_addJob {job added : ScrapeJob} (member : job ∈ (world.addJob added).jobs) :
    job ∈ world.jobs ∨ job = added ∧ ∀ other ∈ world.jobs, other.id ≠ added.id := by
  -- A job after an add is an old one, or the added one, which is the first of its id.
  rw [jobs_addJob] at member
  split_ifs at member with taken
  · exact .inl member
  · rcases List.mem_append.mp member with old | new
    · exact .inl old
    · exact .inr ⟨List.mem_singleton.mp new, by simpa using taken⟩

theorem mem_addJob_of_mem {job : ScrapeJob} (added : ScrapeJob) (member : job ∈ world.jobs) :
    job ∈ (world.addJob added).jobs := by
  rw [jobs_addJob]
  split_ifs
  · exact member
  · exact List.mem_append_left _ member

theorem settles_request (setup : ScraperSetup) (kept : Kept world) (orgId : Nat) (url : String)
    (priority : Option Priority) :
    Settles world ((checkAndEnqueue setup orgId url priority).run world).2
      (SoundRequest setup world orgId url) := by
  have requests : Requests world (MarksPending setup world orgId url) (setup.hashUrl url)
      (requestedJob setup orgId url priority)
      ((checkAndEnqueue setup orgId url priority).run world).2 := checkAndEnqueue_requests
  generalize ((checkAndEnqueue setup orgId url priority).run world).2 = after at requests
  by_cases marks : MarksPending setup world orgId url
  · obtain ⟨marked, jobs⟩ := requests.1 marks
    have rest {job : ScrapeJob} (member : job ∈ after.jobs) : job ∈ world.jobs ∨
        job = requestedJob setup orgId url priority ∧
          TakesJob world orgId (setup.hashUrl url) := by
      rw [jobs] at member
      split_ifs at member with adds
      · rcases mem_addJob member with old | ⟨new, first⟩
        · exact .inl old
        · exact .inr ⟨new, adds.1, adds.2, first⟩
      · exact .inl member
    have grown {job : ScrapeJob} (member : job ∈ world.jobs) : job ∈ after.jobs := by
      rw [jobs]
      split_ifs
      · exact mem_addJob_of_mem _ member
      · exact member
    have failuresMarked : FailuresMarked world after := by
      refine failuresMarked_of_unfailed kept fun job member failed => ?_
      rcases rest member with old | ⟨rfl, -⟩
      · exact old
      · cases failed
    constructor
    · constructor
      · rintro ⟨noneStuck, -⟩ -
        obtain ⟨page, member, key, pending⟩ := marked.there
        obtain ⟨job, there, own, live⟩ := noneStuck page member (.inl pending)
        have own : job.id = scrapeJobId orgId (setup.hashUrl url) := by
          rw [own, key.1, key.2]
          rfl
        rcases rest there with old | ⟨-, takes⟩
        · exact .inl ⟨job, old, own, live⟩
        · exact .inr takes
      · intro sound
        refine ⟨fun page member pending => ?_, failuresMarked⟩
        rcases marked.rows page member with ⟨old, -⟩ | ⟨key, -⟩
        · obtain ⟨job, there, own⟩ := kept.noneStuck page old pending
          exact ⟨job, grown there, own⟩
        · rw [key.1, key.2]
          rcases sound marks with ⟨job, there, own⟩ | takes
          · exact ⟨job, grown there, own⟩
          · refine ⟨requestedJob setup orgId url priority, ?_, rfl, rfl⟩
            rw [jobs, if_pos ⟨takes.connected, takes.adds⟩]
            have new : ∀ job ∈ world.jobs, job.id ≠ (requestedJob setup orgId url priority).id :=
              takes.new
            rw [jobs_addJob, if_neg (by simpa using new)]
            exact List.mem_append_right _ (List.mem_singleton_self _)
    · intro noneStuck
      refine ⟨fun job member => ?_, fun first member second other same => ?_, marked.one kept.one,
        fun job member active page there key => ?_, noneStuck⟩
      · rcases rest member with old | ⟨rfl, -⟩
        · exact kept.keyed job old
        · rfl
      · rcases rest member with old | ⟨rfl, takes⟩ <;> rcases rest other with old' | ⟨rfl, takes'⟩
        · exact kept.apart first old second old' same
        · exact absurd same (takes'.new first old)
        · exact absurd same.symm (takes.new second old')
        · rfl
      · rcases rest member with old | ⟨rfl, -⟩
        · rcases marked.rows page there with ⟨before, -⟩ | ⟨-, pending⟩
          · exact kept.marked job old active page before key
          · exact .inl pending
        · cases active
  · obtain ⟨rows, jobs⟩ := requests.2 marks
    exact settles_idle kept rows jobs fun marked => absurd marked marks

theorem kept_forgotten (setup : ScraperSetup) (kept : Kept world) (orgId : Nat) (page : ScrapedPage) :
    Kept (world.forgotten setup orgId page) ∧
      (world.forgotten setup orgId page).jobs = world.jobs := by
  have jobs : (world.forgotten setup orgId page).jobs = world.jobs := by
    unfold ScrapeWorld.forgotten
    dsimp only
    split_ifs <;> rfl
  have rows {row : ScrapedPage} (member : row ∈ (world.forgotten setup orgId page).pages) :
      row ∈ world.pages :=
    List.mem_of_mem_filter member
  refine ⟨⟨?_, ?_, ?_, ?_, ?_⟩, jobs⟩
  · rw [jobs]
    exact kept.keyed
  · rw [jobs]
    exact kept.apart
  · exact fun first there second other => kept.one first (rows there) second (rows other)
  · rw [jobs]
    exact fun job there active row member => kept.marked job there active row (rows member)
  · intro row member pending
    obtain ⟨job, there, own⟩ := kept.noneStuck row (rows member) pending
    exact ⟨job, jobs ▸ there, own⟩

theorem run_deletePage {urlHash : String} (finds : world.fails .findPage = false)
    (works : world.fails .deletePage = false) (found : world.findPage orgId urlHash = some page) :
    (deletePage setup orgId urlHash).run world =
      (checkAndEnqueue setup orgId page.url (some .high)).run
        (world.forgotten setup orgId page) := by
  have key := (findPage_some found).2
  unfold deletePage ScrapeWorld.forgotten
  rw [run_bind, findUnique, run_statement, finds, found, key.2]
  simp only [Bool.false_eq_true, if_false]
  rw [run_bind, invalidate, cacheStatement, run_modify]
  dsimp only
  rw [run_bind, run_statement]
  by_cases evicts : (world.cacheClient && !world.fails (.invalidate (setup.hashUrl page.url))) = true
  · simp [evicts, works, ScrapeWorld.setCached]
  · simp [evicts, works]

theorem settles_route (kept : Kept world) (orgId : Nat) (urlHash : String) :
    Settles world ((deletePage setup orgId urlHash).run world).2
      (SoundRoute setup world orgId urlHash) := by
  -- Unless something fails before, the route asks for the page again.
  by_cases asks : world.fails .findPage = false ∧ world.fails .deletePage = false ∧
      (world.findPage orgId urlHash).isSome = true
  · obtain ⟨finds, works, present⟩ := asks
    obtain ⟨page, found⟩ := Option.isSome_iff_exists.mp present
    obtain ⟨clean, jobs⟩ := kept_forgotten setup kept orgId page
    have sound : SoundRoute setup world orgId urlHash ↔
        SoundRequest setup (world.forgotten setup orgId page) orgId page.url := by
      simp [SoundRoute, finds, works, found]
    have settled := settles_request setup clean orgId page.url (some .high)
    unfold Settles FailuresMarked at settled ⊢
    rw [jobs] at settled
    rw [run_deletePage finds works found, sound]
    exact settled
  · have unasked : ¬(world.fails .findPage = false ∧ world.fails .deletePage = false ∧
        ∃ page, world.findPage orgId urlHash = some page) := by
      simpa [Option.isSome_iff_exists] using asks
    suffices left : wp (deletePage setup orgId urlHash)
        (fun _ reached => reached.pages = world.pages ∧ reached.jobs = world.jobs) world by
      refine settles_idle kept left.1 left.2 fun finds works page found => ?_
      exact absurd ⟨finds, works, page, found⟩ unasked
    unfold deletePage
    rw [wp_bind, findUnique, wp_statement]
    refine ⟨fun _ => ⟨rfl, rfl⟩, fun finds => ?_⟩
    dsimp only
    cases found : world.findPage orgId urlHash with
    | none => exact ⟨rfl, rfl⟩
    | some page =>
      dsimp only
      rw [wp_bind, invalidate, cacheStatement, wp_modify, wp_bind, wp_statement]
      refine ⟨fun _ => ?_, fun works => ?_⟩
      · constructor
        · split_ifs <;> rfl
        · split_ifs <;> rfl
      · have works : world.fails .deletePage = false := by
          split_ifs at works <;> exact works
        exact absurd ⟨finds, works, page, found⟩ unasked

end Requests

section Runs

variable {setup : ScraperSetup} {world : ScrapeWorld}

theorem kept_fresh (around : Surroundings) : Kept (.fresh around) := by
  constructor <;> intro _ member <;> cases member

theorem settles_promote (kept : Kept world) (id : String) :
    Settles world (handle setup world (.promote id)) True := by
  have origin {job : ScrapeJob} (member : job ∈ (handle setup world (.promote id)).jobs) :
      ∃ before ∈ world.jobs, job.id = before.id ∧ job.data = before.data ∧
        (job = before ∨ job.state = .waiting) := by
    obtain ⟨before, there, rfl⟩ := List.mem_map.mp member
    refine ⟨before, there, ?_⟩
    split_ifs <;> simp
  have noneStuck : NoneStuck (handle setup world (.promote id)) := by
    intro page member pending
    obtain ⟨job, there, own, live⟩ := kept.noneStuck page member pending
    refine ⟨_, List.mem_map.mpr ⟨job, there, rfl⟩, ?_⟩
    split_ifs
    · exact ⟨own, rfl⟩
    · exact ⟨own, live⟩
  refine ⟨iff_of_true ⟨noneStuck, ?_⟩ trivial, fun _ => ⟨?_, ?_, kept.one, ?_, noneStuck⟩⟩
  · refine failuresMarked_of_unfailed kept fun job member failed => ?_
    obtain ⟨before, there, -, -, rfl | waiting⟩ := origin member
    · exact there
    · rw [failed] at waiting
      cases waiting
  · intro job member
    obtain ⟨before, there, id, data, -⟩ := origin member
    rw [id, data]
    exact kept.keyed before there
  · intro first member second other same
    obtain ⟨before, there, rfl⟩ := List.mem_map.mp member
    obtain ⟨before', there', rfl⟩ := List.mem_map.mp other
    have alike : before = before' := by
      refine kept.apart before there before' there' ?_
      split_ifs at same <;> exact same
    rw [alike]
  · intro job member active page there key
    obtain ⟨before, old, -, data, rfl | waiting⟩ := origin member
    · exact kept.marked job old active page there key
    · rw [active] at waiting
      cases waiting

theorem settles_expire (kept : Kept world) (id : String) :
    Settles world (handle setup world (.expire id)) True := by
  have old {job : ScrapeJob} (member : job ∈ (handle setup world (.expire id)).jobs) :
      job ∈ world.jobs :=
    List.mem_of_mem_filter member
  have noneStuck : NoneStuck (handle setup world (.expire id)) := by
    intro page member pending
    obtain ⟨job, there, own, live⟩ := kept.noneStuck page member pending
    exact ⟨job, List.mem_filter.mpr ⟨there, by simp [live]⟩, own, live⟩
  refine ⟨iff_of_true ⟨noneStuck, failuresMarked_of_unfailed kept fun job member _ => old member⟩
    trivial, fun _ => ⟨fun job member => kept.keyed job (old member), ?_, kept.one, ?_, noneStuck⟩⟩
  · exact fun first there second other => kept.apart first (old there) second (old other)
  · exact fun job there => kept.marked job (old there)

theorem settles_handle (kept : Kept world) (event : QueueEvent) :
    Settles world (handle setup world event) (Orderly setup world event) := by
  cases event with
  | checkAndEnqueue orgId url priority => exact settles_request setup kept orgId url priority
  | deletePage orgId urlHash => exact settles_route kept orgId urlHash
  | promote id => exact settles_promote kept id
  | take id => exact settles_take kept id
  | finish id => exact settles_finish kept id
  | expire id => exact settles_expire kept id
  | surround around => exact settles_idle kept (by rfl) (by rfl) trivial

/-- No page gets stuck if and only if every request, every deletion and every attempt of a job is
in order. -/
theorem pages_progress_iff (setup : ScraperSetup) (around : Surroundings)
    (events : List QueueEvent) :
    Throughout (handle setup) (Progresses setup) (.fresh around) events ↔
      Throughout (handle setup) (Orderly setup) (.fresh around) events :=
  throughout_iff_of_invariant (fun _ event kept => (settles_handle kept event).1)
    (fun _ event kept progresses => (settles_handle kept event).2 progresses.1) events
    (kept_fresh around)

/-- The page is scraped, and then deleted while its job is retained. -/
theorem deleted_page_stuck :
    ¬Throughout (handle shopSetup) (fun world event => NoneStuck (handle shopSetup world event))
        (.fresh shopPage)
        [.checkAndEnqueue 1 shopUrl.href (some .normal), .take (scrapeJobId 1 shopUrl.href),
          .finish (scrapeJobId 1 shopUrl.href), .deletePage 1 shopUrl.href] := by
  decide +kernel

end Runs

end HelpForge.Scraper
