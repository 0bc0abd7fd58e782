import HelpForge.Lib.Keyed
import HelpForge.Scraper.Cleanup
import HelpForge.Scraper.Progress

set_option autoImplicit false

namespace HelpForge.Scraper

open Lib Program

abbrev SamePages (organizationId : Nat) (before after : ScrapeWorld) : Prop :=
  SameRows (fun page : ScrapedPage => page.orgId = organizationId) before.pages after.pages

structure PageKeys (world : ScrapeWorld) : Prop where
  unique : (world.pages.map (·.id)).Nodup
  generated : ∀ page ∈ world.pages, page.id < world.nextId

section Tenants

variable {setup : ScraperSetup} {world : ScrapeWorld} {organizationId orgId : Nat}

def pendingPage (page : ScrapedPage) : ScrapedPage := { page with status := .PENDING }

structure Due (setup : ScraperSetup) (world : ScrapeWorld) (orgId : Nat) (url : String) : Prop where
  valid : (validateUrl setup.parser world.web.dns url).isOk = true
  uncached : (world.cacheClient && !world.fails .isCached &&
    world.cached orgId (setup.hashUrl url)) = false
  looked : world.fails .findExisting = false
  idle : ∀ existing ∈ world.findPage orgId (setup.hashUrl url),
    existing.status ≠ .PROCESSING ∧ existing.isFresh setup world.now = false
  written : world.fails .markPending = false

def PendingSinceNow (world : ScrapeWorld) (orgId : Nat) (urlHash : String) : Prop :=
  -- All rows of the page are pending since now.
  (world.findPage orgId urlHash).isSome = true ∧
    ∀ page ∈ world.pages, page.At orgId urlHash →
      page.status = .PENDING ∧ page.updatedAt = world.now

theorem enqueuePage_pages (orgId : Nat) (url : String) (priority : Option Priority) :
    ((enqueuePage setup orgId url priority).run world).2.pages =
      if world.fails .markPending then world.pages
      else (world.upsert orgId url (setup.hashUrl url) pendingPage).pages := by
  unfold enqueuePage upsertScrapedPage
  rw [run_bind, run_statement]
  by_cases fails : world.fails .markPending = true
  · simp [fails]
  · rw [if_neg fails, if_neg fails]
    have rest : Keeps (fun reached => reached.pages =
          (world.upsert orgId url (setup.hashUrl url) pendingPage).pages)
        (do
          let jobId ← enqueueScrapingJob orgId url (setup.hashUrl url) priority
          markScraped orgId (setup.hashUrl url)
          return EnqueueResult.queued (setup.hashUrl url) jobId) := by
      refine Keeps.bind ?_ fun jobId =>
        Keeps.bind (keeps_cacheStatement fun _ same => same) fun _ => Keeps.pure _
      refine Keeps.bind (Keeps.reads _) fun connected => ?_
      split
      · exact Keeps.pure _
      · refine keeps_statement fun reached same => ?_
        unfold ScrapeWorld.addJob
        split <;> exact same
    exact rest _ rfl

theorem checkAndEnqueue_pages (orgId : Nat) (url : String) (priority : Option Priority) :
    (Due setup world orgId url →
      ((checkAndEnqueue setup orgId url priority).run world).2.pages =
        (world.upsert orgId url (setup.hashUrl url) pendingPage).pages) ∧
      (¬Due setup world orgId url →
        ((checkAndEnqueue setup orgId url priority).run world).2.pages = world.pages) := by
  unfold checkAndEnqueue
  rw [run_bind, run_reads]
  cases validated : validateUrl setup.parser world.web.dns url with
  | error failure =>
    have invalid : ¬Due setup world orgId url := fun due => by
      have valid := due.valid
      rw [validated] at valid
      cases valid
    simp [validated, invalid]
  | ok parsed =>
    simp only [validated, isCached]
    rw [run_bind, run_reads]
    by_cases cached : (world.cacheClient && !world.fails .isCached &&
        world.cached orgId (setup.hashUrl url)) = true
    · have known : ¬Due setup world orgId url := fun due => by
        rw [due.uncached] at cached
        cases cached
      simp [cached, known]
    · simp only [cached, Bool.false_eq_true, if_false]
      rw [findUnique, run_bind, run_statement]
      by_cases fails : world.fails .findExisting = true
      · have unread : ¬Due setup world orgId url := fun due => by
          rw [due.looked] at fails
          cases fails
        simp [fails, unread]
      · rw [if_neg fails]
        dsimp only
        have enqueued (idle : ∀ existing ∈ world.findPage orgId (setup.hashUrl url),
              existing.status ≠ .PROCESSING ∧ existing.isFresh setup world.now = false) :
            (Due setup world orgId url →
              ((enqueuePage setup orgId url priority).run world).2.pages =
                (world.upsert orgId url (setup.hashUrl url) pendingPage).pages) ∧
              (¬Due setup world orgId url →
                ((enqueuePage setup orgId url priority).run world).2.pages = world.pages) := by
          rw [enqueuePage_pages]
          constructor
          · intro due
            rw [if_neg (by simp [due.written])]
          · intro spared
            rw [if_pos]
            by_contra writes
            exact spared ⟨by simp [validated, Except.isOk, Except.toBool], by simpa using cached,
              by simpa using fails, idle, by simpa using writes⟩
        cases found : world.findPage orgId (setup.hashUrl url) with
        | none => exact enqueued (by simp [found])
        | some existing =>
          dsimp only
          by_cases processing : existing.status = .PROCESSING
          · have busy : ¬Due setup world orgId url := fun due =>
              (due.idle existing found).1 processing
            simp [processing, busy]
          · rw [if_neg processing]
            rw [run_bind, run_reads]
            by_cases fresh : existing.isFresh setup world.now = true
            · have current : ¬Due setup world orgId url := fun due => by
                rw [(due.idle existing found).2] at fresh
                cases fresh
              have marks : Keeps (fun reached => reached.pages = world.pages)
                  (do markScraped orgId (setup.hashUrl url)
                      return EnqueueResult.fresh (setup.hashUrl url)) :=
                Keeps.bind (keeps_cacheStatement fun _ same => same) fun _ => Keeps.pure _
              simp only [fresh, if_true, current, false_implies, not_false_eq_true, true_implies,
                true_and]
              exact marks world rfl
            · simp only [fresh, if_false, Bool.false_eq_true]
              refine enqueued fun other same => ?_
              rw [found] at same
              cases same
              exact ⟨processing, by simpa using fresh⟩

theorem pending_settles (orgId : Nat) (urlHash : String) (now : Nat) (page : ScrapedPage) :
    let pend := fun page : ScrapedPage =>
      if page.At orgId urlHash then { pendingPage page with updatedAt := now } else page
    pend (pend page) = pend page := by
  intro pend
  by_cases key : page.At orgId urlHash <;> simp [pend, key, pendingPage]

theorem upsert_elsewhere (url urlHash : String) (other : orgId ≠ organizationId) :
    SamePages organizationId world (world.upsert orgId url urlHash pendingPage) := by
  unfold SamePages ScrapeWorld.upsert
  split
  · refine (sameRows_map_iff ?_ ?_).mpr ?_
    · exact fun page _ => pending_settles orgId urlHash world.now page
    · intro page _
      split_ifs <;> rfl
    · intro page _ mine
      rw [if_neg]
      intro key
      exact other (key.1.symm.trans mine)
  · refine SameRows.append fun page member => ?_
    rw [List.mem_singleton.mp member]
    exact other

theorem upsert_spares_iff (keys : PageKeys world) (url urlHash : String) :
    SamePages orgId world (world.upsert orgId url urlHash pendingPage) ↔
      PendingSinceNow world orgId urlHash := by
  -- The organisation's own page is as it was just where it is already pending since now.
  unfold SamePages ScrapeWorld.upsert PendingSinceNow
  by_cases found : (world.findPage orgId urlHash).isSome = true
  · rw [if_pos found, sameRows_map_iff]
    · constructor
      · intro still
        refine ⟨found, fun page member key => ?_⟩
        have same := still page member key.1
        rw [if_pos key] at same
        have status := congrArg ScrapedPage.status same
        have updated := congrArg ScrapedPage.updatedAt same
        exact ⟨status.symm, updated.symm⟩
      · rintro ⟨-, pending⟩ page member -
        split_ifs with key
        · obtain ⟨status, updated⟩ := pending page member key
          simp [pendingPage, ← status, ← updated]
        · rfl
    · exact fun page _ => pending_settles orgId urlHash world.now page
    · intro page _
      split_ifs <;> rfl
  · rw [if_neg found]
    refine iff_of_false ?_ fun pending => found pending.1
    let new : ScrapedPage :=
      { pendingPage (world.newPage orgId url urlHash) with updatedAt := world.now }
    refine not_sameRows_append new rfl (List.mem_singleton.mpr rfl) fun member => ?_
    exact absurd (keys.generated _ member) (Nat.lt_irrefl _)

theorem checkAndEnqueue_elsewhere (url : String) (priority : Option Priority)
    (other : orgId ≠ organizationId) :
    SamePages organizationId world ((checkAndEnqueue setup orgId url priority).run world).2 := by
  unfold SamePages
  by_cases due : Due setup world orgId url
  · rw [(checkAndEnqueue_pages orgId url priority).1 due]
    exact upsert_elsewhere url _ other
  · rw [(checkAndEnqueue_pages orgId url priority).2 due]
    exact SameRows.refl _ _

structure Deletable (world : ScrapeWorld) (orgId : Nat) (urlHash : String) : Prop where
  looked : world.fails .findPage = false
  found : (world.findPage orgId urlHash).isSome = true
  deleted : world.fails .deletePage = false

def ScrapeWorld.without (world : ScrapeWorld) (orgId : Nat) (urlHash : String) : List ScrapedPage :=
  -- What is left when the page is enqueued again.
  world.pages.filter fun row => !decide (row.At orgId urlHash)

variable (urlHash : String)

theorem run_deletePage_spared (spared : ¬Deletable world orgId urlHash) :
    ((deletePage setup orgId urlHash).run world).2.pages = world.pages := by
  unfold deletePage findUnique
  rw [run_bind, run_statement]
  by_cases looked : world.fails .findPage = true
  · simp [looked]
  rw [if_neg looked]
  cases found : world.findPage orgId urlHash with
  | none => rfl
  | some page =>
    have fails : world.fails .deletePage = true := by
      by_contra deletes
      exact spared ⟨by simpa using looked, by simp [found], by simpa using deletes⟩
    dsimp only
    rw [invalidate, cacheStatement, run_bind, run_modify]
    dsimp only
    rw [run_bind, run_statement]
    by_cases evicts :
        (world.cacheClient && !world.fails (.invalidate (setup.hashUrl page.url))) = true
    · simp [evicts, fails, ScrapeWorld.setCached]
    · simp [evicts, fails]

theorem deletable_again (setup : ScraperSetup) (urlHash : String)
    (deletable : Deletable world orgId urlHash) :
    ∃ url left, left.pages = world.without orgId urlHash ∧ left.nextId = world.nextId ∧
      (deletePage setup orgId urlHash).run world =
        (checkAndEnqueue setup orgId url (some .high)).run left := by
  obtain ⟨looked, present, deleted⟩ := deletable
  obtain ⟨page, found⟩ := Option.isSome_iff_exists.mp present
  refine ⟨page.url, world.forgotten setup orgId page, ?_, ?_, run_deletePage looked deleted found⟩
  · rw [ScrapeWorld.without, ← (findPage_some found).2.2]
    rfl
  · unfold ScrapeWorld.forgotten
    dsimp only
    split <;> rfl

theorem deletePage_elsewhere (other : orgId ≠ organizationId) :
    SamePages organizationId world ((deletePage setup orgId urlHash).run world).2 := by
  by_cases deletable : Deletable world orgId urlHash
  · obtain ⟨url, left, pages, -, ran⟩ := deletable_again setup urlHash deletable
    rw [ran]
    have kept : SamePages organizationId world left := by
      unfold SamePages
      rw [pages]
      refine SameRows.filter fun page _ mine => ?_
      simpa using fun key : page.At orgId urlHash => other (key.1.symm.trans mine)
    exact kept.trans (checkAndEnqueue_elsewhere url _ other)
  · unfold SamePages
    rw [run_deletePage_spared urlHash deletable]
    exact SameRows.refl _ _

theorem deletePage_spares_iff (keys : PageKeys world) (urlHash : String) :
    SamePages orgId world ((deletePage setup orgId urlHash).run world).2 ↔
      ¬Deletable world orgId urlHash := by
  constructor
  · intro same deletable
    obtain ⟨page, found⟩ := Option.isSome_iff_exists.mp deletable.found
    obtain ⟨there, key⟩ := findPage_some found
    obtain ⟨url, left, pages, next, ran⟩ := deletable_again setup urlHash deletable
    have stays := (same page key.1).mpr there
    have gone : ∀ row ∈ left.pages, ¬row.At orgId urlHash := by
      intro row member
      rw [pages, ScrapeWorld.without, List.mem_filter] at member
      simpa using member.2
    rw [ran] at stays
    by_cases due : Due setup left orgId url
    · -- A page that is enqueued again has a new row.
      rw [(checkAndEnqueue_pages orgId url _).1 due] at stays
      rcases mem_upsert stays with ⟨old, -⟩ | ⟨before, at_, old | ⟨-, rfl⟩, same⟩
      · exact gone page old key
      · rw [same] at key
        exact gone before old key
      · have id := congrArg ScrapedPage.id same
        have bound := keys.generated page there
        rw [id] at bound
        simp [pendingPage, ScrapeWorld.newPage, next] at bound
    · rw [(checkAndEnqueue_pages orgId url _).2 due] at stays
      exact gone page stays key
  · intro spared
    unfold SamePages
    rw [run_deletePage_spared urlHash spared]
    exact SameRows.refl _ _

structure Cleans (world : ScrapeWorld) (orgId : Nat) : Prop where
  looked : world.fails (.findStale orgId) = false
  queued : world.bridgeQueue = true → world.fails (.addDeleteDocuments orgId) = false
  marked : world.fails (.markStale orgId) = false

theorem markAndInvalidate_pages (orgId : Nat) (staleRows : List ScrapedPage) (queued : Bool) :
    ((markAndInvalidate setup orgId staleRows queued).run world).2.pages =
      if world.fails (.markStale orgId) then world.pages
      else (world.markStale (staleRows.map (·.id))).pages := by
  unfold markAndInvalidate
  rw [run_bind, run_statement]
  by_cases fails : world.fails (.markStale orgId) = true
  · simp [fails]
  · rw [if_neg fails, if_neg fails]
    have evicted : Keeps (fun reached => reached.pages =
          (world.markStale (staleRows.map (·.id))).pages)
        (staleRows.mapM (fun page => invalidate orgId (setup.hashUrl page.url)) >>= fun _ =>
          pure (staleRows.length, queued)) :=
      Keeps.bind (Cleanup.keeps_invalidates orgId staleRows fun _ _ same => same) fun _ =>
        Keeps.pure _
    exact evicted _ rfl

theorem deleteStalePages_pages (orgId cutoff : Nat) :
    (Cleans world orgId →
      ((deleteStalePages setup orgId cutoff).run world).2.pages =
        (world.markStale ((world.staleRows orgId cutoff).map (·.id))).pages) ∧
      (¬Cleans world orgId →
        ((deleteStalePages setup orgId cutoff).run world).2.pages = world.pages) := by
  rw [run_deleteStalePages]
  constructor
  · intro cleans
    rw [if_neg (by simp [cleans.looked])]
    split_ifs with none connected refused
    · simp [none, ScrapeWorld.markStale]
    · rw [cleans.queued connected] at refused
      cases refused
    · rw [markAndInvalidate_pages, if_neg (by simp [cleans.marked])]
      rfl
    · rw [markAndInvalidate_pages, if_neg (by simp [cleans.marked])]
  · intro spared
    split_ifs with blind none connected refused
    · rfl
    · rfl
    · rfl
    · rw [markAndInvalidate_pages, if_pos]
      by_contra marks
      exact spared ⟨by simpa using blind, fun _ => by simpa using refused, by simpa using marks⟩
    · rw [markAndInvalidate_pages, if_pos]
      by_contra marks
      exact spared ⟨by simpa using blind, fun on => absurd on connected, by simpa using marks⟩

def MarkedAnew (world : ScrapeWorld) (orgId cutoff : Nat) : Prop :=
  -- A page of the organisation that the cleanup marks, and that has not been marked just now.
  ∃ page ∈ world.pages, page.Stale orgId cutoff ∧
    ¬(page.status = .STALE ∧ page.updatedAt = world.now)

theorem deleteStalePages_elsewhere (keys : PageKeys world) (cutoff : Nat)
    (other : orgId ≠ organizationId) :
    SamePages organizationId world ((deleteStalePages setup orgId cutoff).run world).2 := by
  unfold SamePages
  by_cases cleans : Cleans world orgId
  · rw [(deleteStalePages_pages orgId cutoff).1 cleans, ScrapeWorld.markStale]
    refine (sameRows_map_iff ?_ ?_).mpr ?_
    · intro page _
      split_ifs <;> rfl
    · intro page _
      split_ifs <;> rfl
    · intro page member mine
      rw [if_neg]
      intro hit
      obtain ⟨stale, found, same⟩ := List.mem_map.mp hit
      obtain ⟨there, isStale⟩ := List.mem_filter.mp found
      have which := List.inj_on_of_nodup_map keys.unique there member same
      have place : stale.Stale orgId cutoff := of_decide_eq_true isStale
      exact other (place.1.symm.trans (which ▸ mine))
  · rw [(deleteStalePages_pages orgId cutoff).2 cleans]
    exact SameRows.refl _ _

theorem mem_staleIds_iff (unique : (world.pages.map (·.id)).Nodup) (cutoff : Nat)
    {page : ScrapedPage} (member : page ∈ world.pages) :
    page.id ∈ (world.staleRows orgId cutoff).map (·.id) ↔ page.Stale orgId cutoff := by
  -- A row is marked by its id, which no other row has.
  constructor
  · intro hit
    obtain ⟨stale, found, same⟩ := List.mem_map.mp hit
    obtain ⟨there, isStale⟩ := List.mem_filter.mp found
    rw [← List.inj_on_of_nodup_map unique there member same]
    exact of_decide_eq_true isStale
  · intro stale
    exact List.mem_map.mpr ⟨page, List.mem_filter.mpr ⟨member, decide_eq_true stale⟩, rfl⟩

theorem deleteStalePages_spares_iff (keys : PageKeys world) (cutoff : Nat) :
    SamePages orgId world ((deleteStalePages setup orgId cutoff).run world).2 ↔
      ¬(Cleans world orgId ∧ MarkedAnew world orgId cutoff) := by
  unfold SamePages
  by_cases cleans : Cleans world orgId
  · have selected (page : ScrapedPage) (member : page ∈ world.pages) :
        page.id ∈ (world.staleRows orgId cutoff).map (·.id) ↔ page.Stale orgId cutoff :=
      mem_staleIds_iff keys.unique cutoff member
    rw [(deleteStalePages_pages orgId cutoff).1 cleans, ScrapeWorld.markStale, sameRows_map_iff]
    · constructor
      · rintro still ⟨-, page, member, stale, anew⟩
        have same := still page member stale.1
        rw [if_pos ((selected page member).mpr stale)] at same
        exact anew ⟨(congrArg ScrapedPage.status same).symm,
          (congrArg ScrapedPage.updatedAt same).symm⟩
      · intro spared page member _
        split_ifs with hit
        · have stale := (selected page member).mp hit
          have before : page.status = .STALE ∧ page.updatedAt = world.now := by
            by_contra anew
            exact spared ⟨cleans, page, member, stale, anew⟩
          simp [← before.1, ← before.2]
        · rfl
    · intro page _
      split_ifs <;> rfl
    · intro page _
      split_ifs <;> rfl
  · rw [(deleteStalePages_pages orgId cutoff).2 cleans]
    exact iff_of_true (SameRows.refl _ _) fun both => cleans both.1

end Tenants

end HelpForge.Scraper
