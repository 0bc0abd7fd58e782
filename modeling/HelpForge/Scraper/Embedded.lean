import HelpForge.Lib.Runs
import HelpForge.Scraper.Effects

set_option autoImplicit false

namespace HelpForge.Scraper

open Lib Machine Program

inductive Operation where
  | checkAndEnqueue (orgId : Nat) (url : String) (priority : Option Priority)
  | processScrapeJob (job : ScrapeJobData)
  | deleteStalePages (orgId cutoff : Nat)
  | purgeStaleDbRows (orgId : Nat) (olderThan : Int)
  -- The bridge executes the job that has waited longest.
  | executeBridgeJob
  | surround (around : Surroundings)

def ScrapeWorld.executed (world : ScrapeWorld) : ScrapeWorld :=
  match world.bridge with
  | [] => world
  | job :: rest => { world with documents := job.execute world.documents, bridge := rest }

section Operations

variable (setup : ScraperSetup)

def operate (world : ScrapeWorld) : Operation → ScrapeWorld
  | .checkAndEnqueue orgId url priority => ((checkAndEnqueue setup orgId url priority).run world).2
  | .processScrapeJob job => ((processScrapeJob setup job).run world).2
  | .deleteStalePages orgId cutoff => ((deleteStalePages setup orgId cutoff).run world).2
  | .purgeStaleDbRows orgId olderThan => ((purgeStaleDbRows orgId olderThan).run world).2
  | .executeBridgeJob => world.executed
  | .surround around => world.within around

def ScrapeWorld.settled (world : ScrapeWorld) : Nat → String → Option String :=
  -- The documents once the jobs of the bridge are done.
  world.bridge.foldl (fun documents job => job.execute documents) world.documents

def MadeOf (documents : Nat → String → Option String) (orgId : Nat) (urlHash hash : String) : Prop :=
  -- The document is made of a content of this hash.
  (documents orgId urlHash).map setup.hashContent = some hash

instance (documents : Nat → String → Option String) (orgId : Nat) (urlHash hash : String) :
    Decidable (MadeOf setup documents orgId urlHash hash) :=
  inferInstanceAs (Decidable (_ = _))

def ScrapedPage.Embedded (documents : Nat → String → Option String) (page : ScrapedPage) : Prop :=
  -- Once the jobs of the bridge are done, the row's page is embedded if it is completed.
  page.status = .COMPLETED →
    ∀ hash ∈ page.contentHash, MadeOf setup documents page.orgId page.urlHash hash

instance (documents : Nat → String → Option String) (page : ScrapedPage) :
    Decidable (page.Embedded setup documents) :=
  inferInstanceAs (Decidable (_ → ∀ hash ∈ _, _))

def ScrapeWorld.Embedded (world : ScrapeWorld) : Prop :=
  ∀ page ∈ world.pages, page.Embedded setup world.settled

def BridgeJob.Concerns (orgId : Nat) (urlHash : String) : BridgeJob → Prop
  | .processDocument org_id document_id _ _ => orgId = org_id ∧ urlHash = document_id
  | .deleteDocuments org_id document_ids => orgId = org_id ∧ urlHash ∈ document_ids

instance (orgId : Nat) (urlHash : String) :
    (job : BridgeJob) → Decidable (job.Concerns orgId urlHash)
  | .processDocument _ _ _ _ => inferInstanceAs (Decidable (_ ∧ _))
  | .deleteDocuments _ _ => inferInstanceAs (Decidable (_ ∧ _))

def CompletedEmbedded (world : ScrapeWorld) : Prop :=
  -- Every completed page for which no job of the bridge is pending is embedded.
  ∀ page ∈ world.pages, (∀ job ∈ world.bridge, ¬job.Concerns page.orgId page.urlHash) →
    page.Embedded setup world.documents

instance (world : ScrapeWorld) : Decidable (CompletedEmbedded setup world) :=
  inferInstanceAs (Decidable (∀ page ∈ _, _ → _))

def fetchedText (web : Web) (job : ScrapeJobData) (page : FetchedPage) : Option String :=
  -- The text that the job would embed of what it has fetched.
  match setup.parseHtml page.html job.url with
  | .error _ => none
  | .ok parsed =>
    let scraped := richest setup web job.url page parsed
    if scraped.parsed.body = "" ∧ scraped.parsed.title = "" then none
    else some (buildEmbeddingText scraped.parsed)

def pageText (web : Web) (job : ScrapeJobData) : Option String :=
  match (fetchPage web setup.maxPageBytes setup.decode setup.parser job.url).2 with
  | .error _ => none
  | .ok page => fetchedText setup web job page

structure Completes (world : ScrapeWorld) (job : ScrapeJobData) : Prop where
  valid : (validateUrl setup.parser world.web.dns job.url).isOk = true
  marks : world.fails .markProcessing = false
  finds : world.fails .findHash = false
  completes : world.fails .markCompleted = false

def SoundScrape (world : ScrapeWorld) (job : ScrapeJobData) : Prop :=
  -- If the page is completed without a job of the bridge, then what the bridge has been given makes
  -- its document of the same content.
  ∀ text, pageText setup world.web job = some text → Completes setup world job →
    (world.storedHash job = some (setup.hashContent text) ∨ world.bridgeQueue = false) →
    MadeOf setup world.settled job.org_id job.url_hash (setup.hashContent text)

def SoundDeletion (world : ScrapeWorld) (orgId cutoff : Nat) : Prop :=
  -- If the vectors of pages are deleted, then their rows are marked, or none is completed.
  world.fails (.findStale orgId) = false → world.bridgeQueue = true →
    world.fails (.addDeleteDocuments orgId) = false → world.fails (.markStale orgId) = true →
    ∀ page ∈ world.pages, page.Stale orgId cutoff → page.status = .COMPLETED →
      page.contentHash = none

def Sound (world : ScrapeWorld) : Operation → Prop
  | .processScrapeJob job => SoundScrape setup world job
  | .deleteStalePages orgId cutoff => SoundDeletion world orgId cutoff
  | _ => True

end Operations

section Steps

variable {setup : ScraperSetup} {world : ScrapeWorld}

theorem settled_append (world : ScrapeWorld) (job : BridgeJob) :
    ({ world with bridge := world.bridge ++ [job] } : ScrapeWorld).settled =
      job.execute world.settled := by
  simp [ScrapeWorld.settled]

theorem settled_executed (world : ScrapeWorld) : world.executed.settled = world.settled := by
  unfold ScrapeWorld.executed
  cases waiting : world.bridge with
  | nil => rfl
  | cons job rest => simp [ScrapeWorld.settled, waiting]

structure Tidy (setup : ScraperSetup) (world : ScrapeWorld) : Prop where
  embedded : world.Embedded setup
  one : world.OneRowEach

section Write

variable {orgId : Nat} {url urlHash : String} {data : ScrapedPage → ScrapedPage}

theorem settled_upsert : (world.upsert orgId url urlHash data).settled = world.settled := by
  obtain ⟨-, -, -, bridge, documents, -⟩ := upsert_frame world orgId url urlHash data
  simp only [ScrapeWorld.settled, bridge, documents]

theorem embedded_upsert (embedded : world.Embedded setup)
    (written : ∀ before, before.At orgId urlHash →
      (before ∈ world.pages ∨
        world.findPage orgId urlHash = none ∧ before = world.newPage orgId url urlHash) →
      (data before).Embedded setup world.settled) :
    (world.upsert orgId url urlHash data).Embedded setup := by
  intro page member
  rw [settled_upsert]
  rcases mem_upsert member with ⟨old, -⟩ | ⟨before, key, origin, rfl⟩
  · exact embedded page old
  · exact written before key origin

theorem tidy_upsert (tidy : Tidy setup world) (keeps : KeepsKey data)
    (open_ : ∀ page, (data page).status ≠ .COMPLETED) :
    Tidy setup (world.upsert orgId url urlHash data) :=
  -- A row that is not completed says nothing.
  ⟨embedded_upsert tidy.embedded fun before _ _ completed => absurd completed (open_ before),
    oneRowEach_upsert keeps tidy.one⟩

end Write

theorem tidy_checkAndEnqueue (orgId : Nat) (url : String) (priority : Option Priority) :
    Keeps (Tidy setup) (checkAndEnqueue setup orgId url priority) := by
  refine keeps_checkAndEnqueue (fun world tidy => ?_) (fun world job tidy => ?_)
    fun world urlHash tidy => ?_
  · exact tidy_upsert tidy (fun _ => ⟨rfl, rfl⟩) fun _ => by simp
  · unfold ScrapeWorld.addJob
    split_ifs <;> exact ⟨tidy.embedded, tidy.one⟩
  · exact ⟨tidy.embedded, tidy.one⟩

theorem tidy_purge (orgId : Nat) (olderThan : Int) :
    Keeps (Tidy setup) (purgeStaleDbRows orgId olderThan) := by
  refine keeps_statement fun world tidy => ⟨fun page member => ?_, ?_⟩
  · exact tidy.embedded page (List.mem_of_mem_filter member)
  · intro first there second other
    exact tidy.one first (List.mem_of_mem_filter there) second (List.mem_of_mem_filter other)

section Deletion

variable {orgId cutoff : Nat}

theorem settled_deleted (orgId cutoff : Nat) (one : world.OneRowEach) {page : ScrapedPage} (member : page ∈ world.pages) :
    let staleRows := world.pages.filter fun page => decide (page.Stale orgId cutoff)
    (BridgeJob.deleteDocuments orgId (staleRows.map (·.urlHash))).execute world.settled page.orgId
        page.urlHash =
      if page.Stale orgId cutoff then none else world.settled page.orgId page.urlHash := by
  dsimp only [BridgeJob.execute]
  by_cases stale : page.Stale orgId cutoff
  · have selected : page ∈ world.pages.filter fun page => decide (page.Stale orgId cutoff) :=
      List.mem_filter.mpr ⟨member, decide_eq_true stale⟩
    rw [if_pos stale, if_pos ⟨stale.1, List.mem_map.mpr ⟨page, selected, rfl⟩⟩]
  · rw [if_neg stale, if_neg]
    rintro ⟨own, hit⟩
    obtain ⟨row, selected, same⟩ := List.mem_map.mp hit
    obtain ⟨there, picked⟩ := List.mem_filter.mp selected
    have rowStale : row.Stale orgId cutoff := of_decide_eq_true picked
    have alike : row = page := one row there page member ⟨rowStale.1.trans own.symm, same⟩
    exact stale (alike ▸ rowStale)

theorem tidy_markStale {ids : List Nat} (one : world.OneRowEach)
    (others : ∀ page ∈ world.pages, page.id ∉ ids → page.Embedded setup world.settled) :
    Tidy setup (world.markStale ids) := by
  have origin {page : ScrapedPage} (member : page ∈ (world.markStale ids).pages) :
      ∃ before ∈ world.pages,
        page = if before.id ∈ ids then { before with status := .STALE, updatedAt := world.now }
          else before := by
    obtain ⟨before, there, same⟩ := List.mem_map.mp member
    exact ⟨before, there, same.symm⟩
  constructor
  · intro page member
    obtain ⟨before, there, rfl⟩ := origin member
    by_cases hit : before.id ∈ ids
    · rw [if_pos hit]
      intro completed
      simp at completed
    · rw [if_neg hit]
      exact others before there hit
  · intro first there second other same
    obtain ⟨before, old, rfl⟩ := origin there
    obtain ⟨before', old', rfl⟩ := origin other
    have alike : before = before' := by
      refine one before old before' old' ?_
      by_cases hit : before.id ∈ ids <;> by_cases hit' : before'.id ∈ ids <;>
        simpa [hit, hit', ScrapedPage.At] using same
    rw [alike]

theorem deletion_sound_iff (tidy : Tidy setup world) :
    wp (deleteStalePages setup orgId cutoff)
      (fun _ reached => reached.OneRowEach ∧
        (reached.Embedded setup ↔ SoundDeletion world orgId cutoff)) world := by
  have idle (holds : SoundDeletion world orgId cutoff) :
      world.OneRowEach ∧ (world.Embedded setup ↔ SoundDeletion world orgId cutoff) :=
    ⟨tidy.one, iff_of_true tidy.embedded holds⟩
  unfold deleteStalePages
  rw [wp_bind, wp_statement]
  refine ⟨fun fails => idle fun works => absurd fails (by simp [works]), fun found => ?_⟩
  dsimp only
  by_cases none : world.pages.filter (fun page => decide (page.Stale orgId cutoff)) = []
  · rw [if_pos none]
    refine idle fun _ _ _ _ page member stale => ?_
    have selected : page ∈ world.pages.filter fun page => decide (page.Stale orgId cutoff) :=
      List.mem_filter.mpr ⟨member, decide_eq_true stale⟩
    exact absurd none (List.ne_nil_of_mem selected)
  · rw [if_neg none, wp_bind, enqueueDeleteDocuments, wp_enqueueBridgeJob]
    have rest (queued : Bool) (left : ScrapeWorld)
        (failing : left.fails (.markStale orgId) = true →
          left.OneRowEach ∧ (left.Embedded setup ↔ SoundDeletion world orgId cutoff))
        (working : left.fails (.markStale orgId) = false →
          SoundDeletion world orgId cutoff ∧ Tidy setup (left.markStale
            ((world.pages.filter fun page => decide (page.Stale orgId cutoff)).map (·.id)))) :
        wp (markAndInvalidate setup orgId
            (world.pages.filter fun page => decide (page.Stale orgId cutoff)) queued)
          (fun _ reached => reached.OneRowEach ∧
            (reached.Embedded setup ↔ SoundDeletion world orgId cutoff)) left := by
      unfold markAndInvalidate
      rw [wp_bind, wp_statement]
      refine ⟨failing, fun works => ?_⟩
      obtain ⟨sound, clean⟩ := working works
      have invalidates : Keeps (Tidy setup)
          ((world.pages.filter fun page => decide (page.Stale orgId cutoff)).mapM
            fun page => invalidate orgId (setup.hashUrl page.url)) :=
        Keeps.mapM fun _ _ => keeps_cacheStatement fun _ tidy => ⟨tidy.embedded, tidy.one⟩
      refine (Keeps.bind invalidates (fun _ => Keeps.pure _) _ clean).weaken ?_
      intro _ reached tidy
      exact ⟨tidy.one, iff_of_true tidy.embedded sound⟩
    have own {page : ScrapedPage} (member : page ∈ world.pages) (stale : page.Stale orgId cutoff) :
        page.id ∈
          (world.pages.filter fun page => decide (page.Stale orgId cutoff)).map (·.id) :=
      List.mem_map.mpr ⟨page, List.mem_filter.mpr ⟨member, decide_eq_true stale⟩, rfl⟩
    refine ⟨fun off => ?_, fun connected => ⟨fun fails => ?_, fun queued => ?_⟩⟩
    · have sound : SoundDeletion world orgId cutoff := fun _ on => absurd on (by simp [off])
      refine rest false world (fun _ => idle sound) fun _ => ⟨sound, ?_⟩
      exact tidy_markStale tidy.one fun page member _ => tidy.embedded page member
    · exact idle fun _ _ works => absurd works (by simp [fails])
    · have deleted {page : ScrapedPage} (member : page ∈ world.pages) :=
        settled_deleted orgId cutoff tidy.one member
      refine rest true _ (fun fails => ⟨tidy.one, ?_⟩) fun works => ⟨?_, ?_⟩
      · constructor
        · intro embedded _ _ _ _ page member stale completed
          have said := embedded page member completed
          rw [settled_append] at said
          cases hash : page.contentHash with
          | none => rfl
          | some text =>
            have made := said text hash
            simp [MadeOf, deleted member, stale] at made
        · intro sound page member completed hash stored
          have hashless := sound found connected queued fails page member
          by_cases stale : page.Stale orgId cutoff
          · simp [hashless stale completed] at stored
          · rw [settled_append, MadeOf, deleted member, if_neg stale]
            exact tidy.embedded page member completed hash stored
      · exact fun _ _ _ failed => absurd failed (by simpa using works)
      · refine tidy_markStale tidy.one fun page member other completed hash stored => ?_
        rw [settled_append, MadeOf, deleted member, if_neg fun stale => other (own member stale)]
        exact tidy.embedded page member completed hash stored

end Deletion

section Scrape

variable {job : ScrapeJobData}

def Taken (world : ScrapeWorld) (job : ScrapeJobData) : Prop :=
  -- The page's row is in the hands of the worker.
  ∀ page ∈ world.pages, page.At job.org_id job.url_hash → page.status ≠ .COMPLETED

theorem embedded_completed (tidy : Tidy setup world) (hash : String)
    {data : ScrapedPage → ScrapedPage} (keeps : KeepsKey data)
    (completes : ∀ page, (data page).status = .COMPLETED)
    (tells : ∀ before, before.At job.org_id job.url_hash →
      (before ∈ world.pages ∨ world.findPage job.org_id job.url_hash = none ∧
        before = world.newPage job.org_id job.url job.url_hash) →
      (data before).contentHash = some hash) :
    (world.upsert job.org_id job.url job.url_hash data).Embedded setup ↔
      MadeOf setup world.settled job.org_id job.url_hash hash := by
  -- What completing the row of a page says of it, and of nothing else.
  constructor
  · intro embedded
    have found : (world.upsert job.org_id job.url job.url_hash data).findPage job.org_id
        job.url_hash = _ := findPage_upsert keeps
    obtain ⟨member, key⟩ := findPage_some found
    rcases mem_upsert member with ⟨-, apart⟩ | ⟨before, at_, origin, same⟩
    · exact absurd key apart
    · have said := embedded _ member
      rw [same] at said
      have made := said (completes before) hash (tells before at_ origin)
      rw [settled_upsert] at made
      simpa [(keeps before).1, (keeps before).2, at_.1, at_.2] using made
  · intro made
    refine embedded_upsert tidy.embedded fun before at_ origin _ stored member => ?_
    have same : stored = hash := by
      have known := tells before at_ origin
      rw [Option.mem_def.mp member] at known
      exact Option.some.inj known
    rw [same, (keeps before).1, (keeps before).2, at_.1, at_.2]
    exact made

theorem tidy_processDocument (tidy : Tidy setup world) (taken : Taken world job) (content : String)
    (metadata : PageMetadata) :
    Tidy setup { world with
      bridge := world.bridge ++ [.processDocument job.org_id job.url_hash content metadata] } := by
  -- A job of the bridge for a page in the hands of the worker changes nothing for the other rows.
  refine ⟨fun page member completed hash stored => ?_, tidy.one⟩
  rw [settled_append]
  have other : ¬page.At job.org_id job.url_hash := fun key => taken page member key completed
  have apart : ¬(page.orgId = job.org_id ∧ page.urlHash = job.url_hash) := other
  simp only [MadeOf, BridgeJob.execute, apart, if_false]
  exact tidy.embedded page member completed hash stored

theorem embedPage_sound_iff (tidy : Tidy setup world) (taken : Taken world job) (scraped : Scraped) :
    let hash := setup.hashContent (buildEmbeddingText scraped.parsed)
    wp (embedPage setup job scraped)
      (fun _ reached => reached.Embedded setup ↔
        (world.fails .findHash = false → world.fails .markCompleted = false →
          (world.storedHash job = some hash ∨ world.bridgeQueue = false) →
          MadeOf setup world.settled job.org_id job.url_hash hash)) world := by
  intro hash
  let goal : Prop := world.fails .findHash = false → world.fails .markCompleted = false →
    (world.storedHash job = some hash ∨ world.bridgeQueue = false) →
    MadeOf setup world.settled job.org_id job.url_hash hash
  have completing (left : ScrapeWorld) (data : ScrapedPage → ScrapedPage) (result : ScrapeResult)
      (failing : left.fails .markCompleted = true → (left.Embedded setup ↔ goal))
      (working : left.fails .markCompleted = false →
        ((left.upsert job.org_id job.url job.url_hash data).Embedded setup ↔ goal)) :
      wp (do
          upsertScrapedPage .markCompleted job.org_id job.url job.url_hash data
          markScraped job.org_id (setup.hashUrl job.url)
          return result) (fun _ reached => reached.Embedded setup ↔ goal) left := by
    rw [wp_bind, upsertScrapedPage, wp_statement]
    refine ⟨failing, fun works => ?_⟩
    have marks : Keeps (fun reached : ScrapeWorld => reached.Embedded setup ↔ goal)
        (markScraped job.org_id (setup.hashUrl job.url)) :=
      keeps_cacheStatement fun _ holds => holds
    exact Keeps.bind marks (fun _ => Keeps.pure _) _ (working works)
  unfold embedPage
  rw [wp_bind, findUnique, wp_statement]
  refine ⟨fun fails => iff_of_true tidy.embedded fun works => absurd fails (by simp [works]),
    fun finds => ?_⟩
  dsimp only
  rw [wp_reads_bind]
  split_ifs with same
  · have unchanged : world.storedHash job = some hash := same
    refine completing world _ _ (fun fails => ?_) fun works => ?_
    · exact iff_of_true tidy.embedded fun _ works => absurd fails (by simp [works])
    · refine (embedded_completed tidy hash (fun _ => by simp) (fun _ => by rfl) ?_).trans ?_
      · intro before at_ origin
        have stored : (world.findPage job.org_id job.url_hash).bind (·.contentHash) = some hash :=
          Option.eq_some_of_filter_eq_some unchanged
        rcases origin with old | ⟨absent, -⟩
        · rw [findPage_of_mem tidy.one old at_] at stored
          exact stored
        · simp [absent] at stored
      · exact ⟨fun made _ _ _ => made, fun sound => sound finds works (.inl unchanged)⟩
  · have changed : world.storedHash job ≠ some hash := same
    rw [wp_bind, enqueueProcessDocument, wp_enqueueBridgeJob]
    have idle (on : world.bridgeQueue = true) : goal := fun _ _ why => by
      rcases why with stored | off
      · exact absurd stored changed
      · exact absurd on (by simp [off])
    refine ⟨fun off => ?_, fun on => ⟨fun _ => iff_of_true tidy.embedded (idle on), fun _ => ?_⟩⟩
    · refine completing world _ _ (fun fails => ?_) fun works => ?_
      · exact iff_of_true tidy.embedded fun _ works => absurd fails (by simp [works])
      · refine (embedded_completed tidy hash (fun _ => by simp) (fun _ => by rfl)
          fun _ _ _ => by rfl).trans ?_
        exact ⟨fun made _ _ _ => made, fun sound => sound finds works (.inr off)⟩
    · -- The job that is queued makes the document of the new content.
      have queued := tidy_processDocument tidy taken (buildEmbeddingText scraped.parsed)
      refine completing _ _ _ (fun _ => iff_of_true (queued _).embedded (idle on)) fun _ => ?_
      refine (embedded_completed (queued _) hash (fun _ => by simp) (fun _ => by rfl)
        fun _ _ _ => by rfl).trans (iff_of_true ?_ (idle on))
      rw [settled_append]
      simp [MadeOf, BridgeJob.execute, hash]

theorem tidy_failPage {α : Type} (message : String) :
    Keeps (Tidy setup) (failPage job message : ScrapeCall α) :=
  Keeps.bind (keeps_upsert fun _ tidy => tidy_upsert tidy (fun _ => ⟨rfl, rfl⟩) fun _ => by simp)
    fun _ => Keeps.fail _

theorem extractPage_sound_iff (tidy : Tidy setup world) (taken : Taken world job)
    (page : FetchedPage) :
    wp (extractPage setup job page)
      (fun _ reached => reached.Embedded setup ↔
        ∀ text, fetchedText setup world.web job page = some text →
          world.fails .findHash = false → world.fails .markCompleted = false →
          (world.storedHash job = some (setup.hashContent text) ∨ world.bridgeQueue = false) →
          MadeOf setup world.settled job.org_id job.url_hash (setup.hashContent text)) world := by
  unfold extractPage
  rw [wp_reads_bind]
  simp only [fetchedText]
  cases setup.parseHtml page.html job.url with
  | error message => exact iff_of_true tidy.embedded (by simp)
  | ok parsed =>
    dsimp only
    split_ifs with empty
    · refine (tidy_failPage _ world tidy).weaken fun _ reached tidy => ?_
      exact iff_of_true tidy.embedded (by simp)
    · refine (embedPage_sound_iff tidy taken _).weaken fun _ reached sound => ?_
      rw [sound]
      simp

theorem tidy_taken (tidy : Tidy setup world) (job : ScrapeJobData) :
    Tidy setup (world.taken job) ∧ Taken (world.taken job) job := by
  refine ⟨tidy_upsert tidy (fun _ => ⟨rfl, rfl⟩) fun _ => by simp, fun page member key => ?_⟩
  rcases mem_upsert member with ⟨-, apart⟩ | ⟨before, -, -, rfl⟩
  · exact absurd key apart
  · simp

theorem storedHash_taken : (world.taken job).storedHash job = world.storedHash job := by
  unfold ScrapeWorld.storedHash ScrapeWorld.taken
  rw [findPage_upsert fun _ => by simp]
  cases world.findPage job.org_id job.url_hash <;> simp [ScrapeWorld.newPage]

theorem afterFetch_sound_iff (tidy : Tidy setup world) (taken : Taken world job)
    (fetched : Except String FetchedPage) :
    wp (afterFetch setup job fetched)
      (fun _ reached => reached.Embedded setup ↔
        ∀ page, fetched = .ok page → ∀ text, fetchedText setup world.web job page = some text →
          world.fails .findHash = false → world.fails .markCompleted = false →
          (world.storedHash job = some (setup.hashContent text) ∨ world.bridgeQueue = false) →
          MadeOf setup world.settled job.org_id job.url_hash (setup.hashContent text)) world := by
  cases fetched with
  | error message =>
    rw [afterFetch_failed]
    refine (tidy_failPage message world tidy).weaken fun _ reached tidy => ?_
    exact iff_of_true tidy.embedded (by simp)
  | ok page =>
    rw [afterFetch_fetched]
    refine (extractPage_sound_iff tidy taken page).weaken fun _ reached sound => ?_
    rw [sound]
    simp

theorem scrape_sound_iff (tidy : Tidy setup world) (job : ScrapeJobData) :
    ((processScrapeJob setup job).run world).2.Embedded setup ↔ SoundScrape setup world job := by
  unfold processScrapeJob
  rw [run_bind, run_startScrape]
  cases validated : validateUrl setup.parser world.web.dns job.url with
  | error failure =>
    refine iff_of_true tidy.embedded fun text _ completes => ?_
    have valid := completes.valid
    simp [validated, Except.isOk, Except.toBool] at valid
  | ok parsed =>
    by_cases fails : world.fails .markProcessing = true
    · simp only [fails, if_true]
      exact iff_of_true tidy.embedded fun text _ completes =>
        absurd fails (by simp [completes.marks])
    · simp only [fails, Bool.false_eq_true, if_false]
      let fetched := fetchPage world.web setup.maxPageBytes setup.decode setup.parser job.url
      obtain ⟨clean, taken⟩ := tidy_taken tidy job
      obtain ⟨-, web, failing, -, -, queue, -⟩ := upsert_frame world job.org_id job.url job.url_hash
        fun page => { page with status := .PROCESSING }
      let left : ScrapeWorld :=
        { world.taken job with connected := (world.taken job).connected ++ fetched.1 }
      have cleanLeft : Tidy setup left := ⟨clean.embedded, clean.one⟩
      have takenLeft : Taken left job := taken
      have sound := afterFetch_sound_iff cleanLeft takenLeft fetched.2
      have stored : left.storedHash job = world.storedHash job := storedHash_taken
      have settled : left.settled = world.settled := settled_upsert
      have around : left.web = world.web ∧ left.fails = world.fails ∧
          left.bridgeQueue = world.bridgeQueue := ⟨web, failing, queue⟩
      have fetches : (fetchPage (world.taken job).web setup.maxPageBytes setup.decode setup.parser
          job.url) = fetched := by
        rw [show (world.taken job).web = world.web from web]
      rw [run_finishScrape, fetches]
      rw [stored, settled, around.1, around.2.1, around.2.2] at sound
      refine Iff.trans sound ?_
      have valid : (validateUrl setup.parser world.web.dns job.url).isOk = true := by
        rw [validated]
        rfl
      have marks : world.fails .markProcessing = false := by simpa using fails
      unfold SoundScrape pageText
      cases fetched.2 with
      | error message =>
        simp
      | ok page =>
        simp only [Except.ok.injEq, forall_eq']
        constructor
        · intro all text reads completes
          exact all text reads completes.finds completes.completes
        · intro all text reads finds completes
          exact all text reads ⟨valid, marks, finds, completes⟩

theorem oneRowEach_scrape (one : world.OneRowEach) (job : ScrapeJobData) :
    ((processScrapeJob setup job).run world).2.OneRowEach := by
  have writes : SurvivesWrites ScrapeWorld.OneRowEach job.org_id job.url job.url_hash :=
    fun _ _ keeps one => oneRowEach_upsert keeps one
  have rest (fetched : Except String FetchedPage) :
      Keeps ScrapeWorld.OneRowEach (afterFetch setup job fetched) :=
    keeps_afterFetch writes (fun _ _ one => one) (fun _ _ one => one) fetched
  unfold processScrapeJob
  rw [run_bind, run_startScrape]
  cases validateUrl setup.parser world.web.dns job.url with
  | error failure => exact one
  | ok parsed =>
    by_cases fails : world.fails .markProcessing = true
    · simpa only [fails, if_true] using one
    · simp only [fails, Bool.false_eq_true, if_false]
      rw [run_finishScrape]
      exact rest _ _ (writes world _ (fun _ => by simp) one)

end Scrape

theorem operate_sound_iff (tidy : Tidy setup world) (operation : Operation) :
    (operate setup world operation).OneRowEach ∧
      ((operate setup world operation).Embedded setup ↔ Sound setup world operation) := by
  -- An operation leaves the rows true exactly if it is sound.
  have quiet {reached : ScrapeWorld} (tidy : Tidy setup reached) :
      reached.OneRowEach ∧ (reached.Embedded setup ↔ True) :=
    ⟨tidy.one, iff_of_true tidy.embedded trivial⟩
  cases operation with
  | checkAndEnqueue orgId url priority =>
    exact quiet (tidy_checkAndEnqueue orgId url priority world tidy)
  | processScrapeJob job => exact ⟨oneRowEach_scrape tidy.one job, scrape_sound_iff tidy job⟩
  | deleteStalePages orgId cutoff => exact deletion_sound_iff tidy
  | purgeStaleDbRows orgId olderThan => exact quiet (tidy_purge orgId olderThan world tidy)
  | surround around => exact quiet ⟨tidy.embedded, tidy.one⟩
  | executeBridgeJob =>
    have rows : world.executed.pages = world.pages := by
      unfold ScrapeWorld.executed
      cases world.bridge <;> rfl
    have embedded : world.executed.Embedded setup := by
      simpa only [ScrapeWorld.Embedded, rows, settled_executed] using tidy.embedded
    have one : world.executed.OneRowEach := by
      simpa only [ScrapeWorld.OneRowEach, rows] using tidy.one
    have clean : Tidy setup world.executed := ⟨embedded, one⟩
    exact quiet clean

theorem execute_elsewhere {job : BridgeJob} {orgId : Nat} {urlHash : String}
    (elsewhere : ¬job.Concerns orgId urlHash) (documents : Nat → String → Option String) :
    job.execute documents orgId urlHash = documents orgId urlHash := by
  cases job with
  | processDocument org_id document_id content metadata => exact if_neg elsewhere
  | deleteDocuments org_id document_ids => exact if_neg elsewhere

theorem settled_elsewhere {orgId : Nat} {urlHash : String} {jobs : List BridgeJob}
    (elsewhere : ∀ job ∈ jobs, ¬job.Concerns orgId urlHash)
    (documents : Nat → String → Option String) :
    jobs.foldl (fun documents job => job.execute documents) documents orgId urlHash =
      documents orgId urlHash := by
  induction jobs generalizing documents with
  | nil => rfl
  | cons job jobs ih =>
    have later := ih (fun other member => elsewhere other (List.mem_cons_of_mem _ member))
      (job.execute documents)
    rw [List.foldl_cons, later]
    exact execute_elsewhere (elsewhere job (List.mem_cons_self ..)) documents

theorem ScrapeWorld.Embedded.completed (embedded : world.Embedded setup) :
    CompletedEmbedded setup world := by
  intro page member none completed hash stored
  have made := embedded page member completed hash stored
  unfold MadeOf ScrapeWorld.settled at made
  rwa [settled_elsewhere none] at made

end Steps

section Runs

variable (setup : ScraperSetup)

/-- In all states of a run the completed pages are embedded once the bridge is done, exactly if all
operations of the run are sound; and then those are embedded for which no job is pending. -/
theorem pages_embedded_iff (around : Surroundings) (operations : List Operation) :
    (Throughout (operate setup) (fun world operation => (operate setup world operation).Embedded setup)
        (.fresh around) operations ↔
      Throughout (operate setup) (Sound setup) (.fresh around) operations) ∧
      (Throughout (operate setup) (Sound setup) (.fresh around) operations →
        Throughout (operate setup)
          (fun world operation => CompletedEmbedded setup (operate setup world operation))
          (.fresh around) operations) := by
  have fresh : Tidy setup (.fresh around) :=
    ⟨by simp [ScrapeWorld.Embedded, ScrapeWorld.fresh, ScrapeWorld.within],
      by simp [ScrapeWorld.OneRowEach, ScrapeWorld.fresh, ScrapeWorld.within]⟩
  have alike := throughout_iff_of_invariant
    (fun world operation (tidy : Tidy setup world) => (operate_sound_iff tidy operation).2)
    (fun world operation tidy embedded => ⟨embedded, (operate_sound_iff tidy operation).1⟩)
    operations fresh
  exact ⟨alike, fun sound => (alike.mpr sound).weaken fun _ _ embedded => embedded.completed⟩

/-- The page is scraped, becomes stale, and is scraped again as it was. -/
theorem rescraped_page_lost :
    ¬Throughout (operate shopSetup)
        (fun world operation => CompletedEmbedded shopSetup (operate shopSetup world operation))
        (.fresh shopPage)
        [.checkAndEnqueue 1 shopUrl.href (some .normal), .processScrapeJob shopJob,
          .executeBridgeJob, .surround { shopPage with elapsed := 31 * 24 * 60 * 60 * 1000 },
          .deleteStalePages 1 (24 * 60 * 60 * 1000), .executeBridgeJob,
          .checkAndEnqueue 1 shopUrl.href (some .normal), .processScrapeJob shopJob] := by
  decide +kernel

end Runs

end HelpForge.Scraper
