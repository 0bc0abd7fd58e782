import HelpForge.Lib.Runs
import HelpForge.Lib.Separated
import HelpForge.Scraper.Effects

set_option autoImplicit false

namespace HelpForge.Scraper

open Lib Machine Program

/-- The attempts that a job is given. -/
def attempts : Nat := 3

def ScrapeJob.started (job : ScrapeJob) : ScrapeJob := { job with state := .active }

def ScrapeJob.ended (job : ScrapeJob) (succeeded : Bool) : ScrapeJob :=
  -- The job at the end of an attempt.
  { job with
    attemptsMade := job.attemptsMade + 1
    state :=
      if succeeded then .completed
      else if job.attemptsMade + 1 < attempts then .delayed
      else .failed }

def ScrapeWorld.setJob (world : ScrapeWorld) (id : String) (change : ScrapeJob → ScrapeJob) :
    ScrapeWorld :=
  { world with jobs := world.jobs.map fun job => if job.id = id then change job else job }

def ScrapeWorld.findJob (world : ScrapeWorld) (id : String) (state : JobState) : Option ScrapeJob :=
  world.jobs.find? fun job => decide (job.id = id ∧ job.state = state)

def succeeds {α : Type} : Except ServiceError α → Bool
  | .ok _ => true
  | .error _ => false

inductive QueueEvent where
  | checkAndEnqueue (orgId : Nat) (url : String) (priority : Option Priority)
  | deletePage (orgId : Nat) (urlHash : String)
  -- A delayed job has waited long enough.
  | promote (id : String)
  -- A worker takes a waiting job, and marks its row.
  | take (id : String)
  -- The worker goes through with the job.
  | finish (id : String)
  -- A finished job is retained no longer.
  | expire (id : String)
  | surround (around : Surroundings)

def JobState.finished : JobState → Bool
  | .completed | .failed => true
  | .waiting | .delayed | .active => false

section Queue

variable (setup : ScraperSetup)

def take (world : ScrapeWorld) (id : String) : ScrapeWorld :=
  match world.findJob id .waiting with
  | none => world
  | some job =>
    let started := (startScrape setup job.data).run (world.setJob id (·.started))
    if succeeds started.1 then started.2 else started.2.setJob id (·.ended false)

def finish (world : ScrapeWorld) (id : String) : ScrapeWorld :=
  match world.findJob id .active with
  | none => world
  | some job =>
    let ended := (finishScrape setup job.data).run world
    ended.2.setJob id (·.ended (succeeds ended.1))

def handle (world : ScrapeWorld) : QueueEvent → ScrapeWorld
  | .checkAndEnqueue orgId url priority => ((checkAndEnqueue setup orgId url priority).run world).2
  | .deletePage orgId urlHash => ((deletePage setup orgId urlHash).run world).2
  | .promote id =>
    { world with
      jobs := world.jobs.map fun job =>
        if job.id = id ∧ job.state = .delayed then { job with state := .waiting } else job }
  | .take id => take setup world id
  | .finish id => finish setup world id
  | .expire id =>
    { world with jobs := world.jobs.filter fun job => !(job.id == id && job.state.finished) }
  | .surround around => world.within around

def ScrapedPage.Pending (page : ScrapedPage) : Prop :=
  page.status = .PENDING ∨ page.status = .PROCESSING

instance (page : ScrapedPage) : Decidable page.Pending := inferInstanceAs (Decidable (_ ∨ _))

def ScrapeWorld.HasLiveJob (world : ScrapeWorld) (orgId : Nat) (urlHash : String) : Prop :=
  -- The queue has a job for the page that is waiting, delayed or active.
  ∃ job ∈ world.jobs, job.id = scrapeJobId orgId urlHash ∧ job.state.finished = false

instance (world : ScrapeWorld) (orgId : Nat) (urlHash : String) :
    Decidable (world.HasLiveJob orgId urlHash) :=
  inferInstanceAs (Decidable (∃ job ∈ _, _))

def NoneStuck (world : ScrapeWorld) : Prop :=
  ∀ page ∈ world.pages, page.Pending → world.HasLiveJob page.orgId page.urlHash

instance (world : ScrapeWorld) : Decidable (NoneStuck world) :=
  inferInstanceAs (Decidable (∀ page ∈ _, _ → _))

def FailuresMarked (world after : ScrapeWorld) : Prop :=
  -- If the event ends a job in failure, then the job's row is marked as failed.
  ∀ job ∈ world.jobs, job.state.finished = false →
    ∀ failed ∈ after.jobs, failed.id = job.id → failed.state = .failed →
      ∀ page ∈ after.pages, page.At job.data.org_id job.data.url_hash → page.status = .FAILED

def Progresses (world : ScrapeWorld) (event : QueueEvent) : Prop :=
  NoneStuck (handle setup world event) ∧ FailuresMarked world (handle setup world event)

end Queue

theorem scrapeJobId_inj {orgId orgId' : Nat} {urlHash urlHash' : String}
    (same : scrapeJobId orgId urlHash = scrapeJobId orgId' urlHash') :
    orgId = orgId' ∧ urlHash = urlHash' := by
  -- A job is of one page.
  have digits (number : Nat) : (toString number).toList = Nat.toDigits 10 number := by
    rw [Nat.toString_eq_ofList_toDigits, String.toList_ofList]
  -- An id is cut at its second colon: the number before it has none.
  have cut (orgId : Nat) (urlHash : String) : (scrapeJobId orgId urlHash).toList =
      "scrape:".toList ++ (Nat.toDigits 10 orgId ++ ':' :: urlHash.toList) := by
    rw [← digits]
    simp [scrapeJobId, String.toList_append, ToString.toString]
  have clear (number : Nat) : ':' ∉ Nat.toDigits 10 number := by
    intro member
    have digit := Nat.isDigit_of_mem_toDigits (by decide) (by decide) member
    exact absurd digit (by decide)
  have texts := congrArg String.toList same
  rw [cut, cut] at texts
  obtain ⟨orgs, hashes⟩ := cut_at_first ':' _ _ _ _ (clear orgId) (clear orgId')
    (List.append_cancel_left texts)
  have numbers := congrArg (Nat.ofDigitChars 10 · 0) orgs
  simp only [Nat.ofDigitChars_ten_toDigits] at numbers
  exact ⟨numbers, String.toList_inj.mp hashes⟩

/-- Jobs have their own ids, that of their page, and a worker has marked the rows of its jobs. -/
structure Kept (world : ScrapeWorld) : Prop where
  keyed : ∀ job ∈ world.jobs, job.id = scrapeJobId job.data.org_id job.data.url_hash
  apart : ∀ first ∈ world.jobs, ∀ second ∈ world.jobs, first.id = second.id → first = second
  one : world.OneRowEach
  marked : ∀ job ∈ world.jobs, job.state = .active →
    ∀ page ∈ world.pages, page.At job.data.org_id job.data.url_hash → page.Pending
  noneStuck : NoneStuck world

section Worked

variable {world after : ScrapeWorld} {job : ScrapeJob} {change : ScrapeJob → ScrapeJob}

theorem findJob_some {id : String} {state : JobState} (found : world.findJob id state = some job) :
    job ∈ world.jobs ∧ job.id = id ∧ job.state = state :=
  ⟨List.mem_of_find?_eq_some found, by simpa using List.find?_some found⟩

structure Worked (world after : ScrapeWorld) (job : ScrapeJob) (change : ScrapeJob → ScrapeJob) :
    Prop where
  there : job ∈ world.jobs
  live : job.state.finished = false
  same : ∀ job, (change job).id = job.id ∧ (change job).data = job.data
  jobs : after.jobs = world.jobs.map fun other => if other.id = job.id then change other else other
  rows : ∀ page ∈ after.pages, ¬page.At job.data.org_id job.data.url_hash → page ∈ world.pages
  one : after.OneRowEach

theorem Worked.mem_jobs (worked : Worked world after job change) (kept : Kept world)
    {left : ScrapeJob} (member : left ∈ after.jobs) :
    left ∈ world.jobs ∧ left.id ≠ job.id ∨ left = change job := by
  -- A job after the change is another one, or the changed one.
  rw [worked.jobs] at member
  obtain ⟨before, there, rfl⟩ := List.mem_map.mp member
  by_cases same : before.id = job.id
  · rw [if_pos same, kept.apart before there job worked.there same]
    exact .inr rfl
  · rw [if_neg same]
    exact .inl ⟨there, same⟩

theorem Worked.changed (worked : Worked world after job change) : change job ∈ after.jobs := by
  rw [worked.jobs]
  exact List.mem_map.mpr ⟨job, worked.there, if_pos rfl⟩

theorem Worked.others (worked : Worked world after job change) {other : ScrapeJob}
    (member : other ∈ world.jobs) (apart : other.id ≠ job.id) : other ∈ after.jobs := by
  rw [worked.jobs]
  exact List.mem_map.mpr ⟨other, member, if_neg apart⟩

theorem Worked.progresses_iff (worked : Worked world after job change) (kept : Kept world) :
    NoneStuck after ∧ FailuresMarked world after ↔
      ((change job).state.finished = true →
        ∀ page ∈ after.pages, page.At job.data.org_id job.data.url_hash → ¬page.Pending) ∧
      ((change job).state = .failed →
        ∀ page ∈ after.pages, page.At job.data.org_id job.data.url_hash →
          page.status = .FAILED) := by
  have id := kept.keyed job worked.there
  constructor
  · rintro ⟨noneStuck, failuresMarked⟩
    constructor
    · intro finished page member key pending
      obtain ⟨live, there, own, unfinished⟩ := noneStuck page member pending
      rw [key.1, key.2, ← id] at own
      rcases worked.mem_jobs kept there with ⟨-, apart⟩ | rfl
      · exact apart own
      · simp [finished] at unfinished
    · intro failed
      exact failuresMarked job worked.there worked.live _ worked.changed (worked.same job).1 failed
  · rintro ⟨finished, failed⟩
    constructor
    · intro page member pending
      by_cases key : page.At job.data.org_id job.data.url_hash
      · refine ⟨change job, worked.changed, ?_, ?_⟩
        · rw [(worked.same job).1, id, key.1, key.2]
        · by_contra ended
          exact finished (by simpa using ended) page member key pending
      · obtain ⟨live, there, own, unfinished⟩ :=
          kept.noneStuck page (worked.rows page member key) pending
        refine ⟨live, worked.others there fun same => key ?_, own, unfinished⟩
        exact scrapeJobId_inj ((own.symm.trans same).trans id)
    · intro before there live left member same hasFailed
      rcases worked.mem_jobs kept member with ⟨old, -⟩ | rfl
      · have alike := kept.apart left old before there same
        rw [alike] at hasFailed
        rw [hasFailed] at live
        cases live
      · have alike := kept.apart job worked.there before there ((worked.same job).1.symm.trans same)
        exact alike ▸ failed hasFailed

theorem Worked.kept (worked : Worked world after job change) (kept : Kept world)
    (marked : (change job).state = .active →
      ∀ page ∈ after.pages, page.At job.data.org_id job.data.url_hash → page.Pending)
    (noneStuck : NoneStuck after) : Kept after := by
  have data := (worked.same job).2
  constructor
  · intro left member
    rcases worked.mem_jobs kept member with ⟨old, -⟩ | rfl
    · exact kept.keyed left old
    · rw [(worked.same job).1, data]
      exact kept.keyed job worked.there
  · intro first member second other same
    rcases worked.mem_jobs kept member with ⟨old, ne⟩ | rfl <;>
      rcases worked.mem_jobs kept other with ⟨old', ne'⟩ | rfl
    · exact kept.apart first old second old' same
    · exact absurd (same.trans (worked.same job).1) ne
    · exact absurd (same.symm.trans (worked.same job).1) ne'
    · rfl
  · exact worked.one
  · intro left member active page there key
    rcases worked.mem_jobs kept member with ⟨old, ne⟩ | rfl
    · refine kept.marked left old active page (worked.rows page there fun own => ne ?_) key
      rw [kept.keyed left old, kept.keyed job worked.there, ← key.1, ← key.2, own.1, own.2]
    · exact marked active page there (data ▸ key)
  · exact noneStuck

end Worked

/-- The page's row is there with this status, and the other rows are as before. -/
structure Marked (world after : ScrapeWorld) (orgId : Nat) (urlHash : String)
    (status : ScrapeStatus) : Prop where
  there : ∃ page ∈ after.pages, page.At orgId urlHash ∧ page.status = status
  rows : ∀ page ∈ after.pages,
    page ∈ world.pages ∧ ¬page.At orgId urlHash ∨ page.At orgId urlHash ∧ page.status = status
  one : world.OneRowEach → after.OneRowEach

variable {status : ScrapeStatus} {orgId : Nat} {urlHash : String}

theorem marked_upsert {url : String} {data : ScrapedPage → ScrapedPage} (world : ScrapeWorld)
    (keeps : KeepsKey data) (sets : ∀ page, (data page).status = status) :
    Marked world (world.upsert orgId url urlHash data) orgId urlHash status := by
  have rows : ∀ page ∈ (world.upsert orgId url urlHash data).pages,
      page ∈ world.pages ∧ ¬page.At orgId urlHash ∨
        page.At orgId urlHash ∧ page.status = status := by
    intro page member
    rcases mem_upsert member with old | ⟨before, key, -, rfl⟩
    · exact .inl old
    · exact .inr ⟨⟨(keeps before).1.trans key.1, (keeps before).2.trans key.2⟩, sets before⟩
  refine ⟨?_, rows, oneRowEach_upsert keeps⟩
  obtain ⟨member, key⟩ := findPage_some (findPage_upsert keeps)
  refine ⟨_, member, key, ?_⟩
  rcases rows _ member with ⟨-, apart⟩ | ⟨-, status⟩
  · exact absurd key apart
  · exact status

theorem Marked.of_rows {world left after : ScrapeWorld}
    (marked : Marked left after orgId urlHash status) (rows : left.pages = world.pages) :
    Marked world after orgId urlHash status :=
  ⟨marked.there, rows ▸ marked.rows, fun one => marked.one fun first there second other =>
    one first (rows ▸ there) second (rows ▸ other)⟩

def Settles (world after : ScrapeWorld) (condition : Prop) : Prop :=
  -- The step progresses if and only if the condition holds, and then the invariant is kept.
  (NoneStuck after ∧ FailuresMarked world after ↔ condition) ∧ (NoneStuck after → Kept after)

variable {condition : Prop}

section Steps

variable {setup : ScraperSetup} {world after : ScrapeWorld}

theorem failuresMarked_of_unfailed (kept : Kept world)
    (old : ∀ job ∈ after.jobs, job.state = .failed → job ∈ world.jobs) :
    FailuresMarked world after := by
  -- Without a new job that has failed there is no failure to mark.
  intro job member live failed there same hasFailed
  have alike := kept.apart failed (old failed there hasFailed) job member same
  rw [← alike, hasFailed] at live
  cases live

theorem settles_idle (kept : Kept world) (rows : after.pages = world.pages)
    (jobs : after.jobs = world.jobs) (holds : condition) : Settles world after condition := by
  -- A step that changes no row and no job.
  have noneStuck : NoneStuck after := by
    intro page member pending
    obtain ⟨job, there, own⟩ := kept.noneStuck page (rows ▸ member) pending
    exact ⟨job, jobs ▸ there, own⟩
  refine ⟨iff_of_true ⟨noneStuck, failuresMarked_of_unfailed kept fun job there _ =>
    jobs ▸ there⟩ holds, fun _ => ?_⟩
  exact {
    keyed := fun job there => kept.keyed job (jobs ▸ there)
    apart := fun first there second other => kept.apart first (jobs ▸ there) second (jobs ▸ other)
    one := fun first there second other => kept.one first (rows ▸ there) second (rows ▸ other)
    marked := fun job there active page member =>
      kept.marked job (jobs ▸ there) active page (rows ▸ member)
    noneStuck }

theorem Worked.settles {job : ScrapeJob} {change : ScrapeJob → ScrapeJob}
    (worked : Worked world after job change) (kept : Kept world)
    (marked : (change job).state = .active →
      ∀ page ∈ after.pages, page.At job.data.org_id job.data.url_hash → page.Pending)
    (ends : ((change job).state.finished = true →
        ∀ page ∈ after.pages, page.At job.data.org_id job.data.url_hash → ¬page.Pending) ∧
      ((change job).state = .failed →
        ∀ page ∈ after.pages, page.At job.data.org_id job.data.url_hash →
          page.status = .FAILED) ↔ condition) : Settles world after condition :=
  ⟨(worked.progresses_iff kept).trans ends, worked.kept kept marked⟩

end Steps

end HelpForge.Scraper
