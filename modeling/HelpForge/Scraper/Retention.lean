import HelpForge.Scraper.Tenants

set_option autoImplicit false

namespace HelpForge.Scraper

open Lib Program

def ScrapedPage.FreshSince (page : ScrapedPage) (cutoff : Nat) : Prop :=
  -- The content has been scraped or embedded since then.
  (∃ scraped ∈ page.lastScrapedAt, cutoff ≤ scraped) ∨
    ∃ embedded ∈ page.lastEmbeddedAt, cutoff ≤ embedded

/-- What is unique in the table. -/
structure PageConstraints (world : ScrapeWorld) : Prop where
  ids : (world.pages.map (·.id)).Nodup
  places : (world.pages.map fun page => (page.orgId, page.urlHash)).Nodup

/-- The row is as it was, and no job has been queued that deletes the page's vectors. -/
structure Spared (page : ScrapedPage) (before after : ScrapeWorld) : Prop where
  row : page ∈ after.pages
  vectors : ∀ document_ids,
    BridgeJob.deleteDocuments page.orgId document_ids ∈ after.bridge.drop before.bridge.length →
      page.urlHash ∉ document_ids

def Reaches (world : ScrapeWorld) (orgId : Nat) (page : ScrapedPage) : Prop :=
  -- The cleanup of an organisation gets as far as to queue a job, or without a queue to mark rows
  -- that have not been marked just now.
  world.fails (.findStale orgId) = false ∧
    if world.bridgeQueue then world.fails (.addDeleteDocuments orgId) = false
    else world.fails (.markStale orgId) = false ∧
      ¬(page.status = .STALE ∧ page.updatedAt = world.now)

section Retention

variable {setup : ScraperSetup} {world : ScrapeWorld} {orgId cutoff : Nat} {page : ScrapedPage}

theorem markAndInvalidate_bridge (staleRows : List ScrapedPage) (queued : Bool) :
    ((markAndInvalidate setup orgId staleRows queued).run world).2.bridge = world.bridge := by
  have kept : Keeps (fun reached => reached.bridge = world.bridge)
      (markAndInvalidate setup orgId staleRows queued) := by
    unfold markAndInvalidate
    refine Keeps.bind (keeps_statement fun _ same => same) fun _ => ?_
    exact Keeps.bind (Cleanup.keeps_invalidates orgId staleRows fun _ _ same => same) fun _ =>
      Keeps.pure _
  exact kept world rfl

theorem deleteStalePages_bridge (orgId cutoff : Nat) :
    ((deleteStalePages setup orgId cutoff).run world).2.bridge =
      if world.fails (.findStale orgId) = false ∧ world.staleRows orgId cutoff ≠ [] ∧
          world.bridgeQueue = true ∧ world.fails (.addDeleteDocuments orgId) = false then
        world.bridge ++ [.deleteDocuments orgId ((world.staleRows orgId cutoff).map (·.urlHash))]
      else world.bridge := by
  -- What the cleanup queues, if it queues anything.
  rw [run_deleteStalePages]
  by_cases looked : world.fails (.findStale orgId) = true
  · simp [looked]
  by_cases none : world.staleRows orgId cutoff = []
  · simp [looked, none]
  by_cases connected : world.bridgeQueue = true
  · by_cases refused : world.fails (.addDeleteDocuments orgId) = true
    · simp [looked, none, connected, refused]
    · simp [looked, none, connected, refused, markAndInvalidate_bridge]
  · simp [looked, none, connected, markAndInvalidate_bridge]

theorem mem_markStale_iff (unique : (world.pages.map (·.id)).Nodup) (there : page ∈ world.pages)
    (ids : List Nat) : page ∈ (world.markStale ids).pages ↔
      (page.id ∈ ids → page.status = .STALE ∧ page.updatedAt = world.now) := by
  unfold ScrapeWorld.markStale
  constructor
  · intro member marked
    obtain ⟨row, found, same⟩ := List.mem_map.mp member
    have alike : row.id = page.id := by
      rw [← same]
      split_ifs <;> rfl
    rw [List.inj_on_of_nodup_map unique found there alike, if_pos marked] at same
    exact ⟨congrArg ScrapedPage.status same.symm, congrArg ScrapedPage.updatedAt same.symm⟩
  · intro before
    refine List.mem_map.mpr ⟨page, there, ?_⟩
    split_ifs with marked
    · obtain ⟨stale, now⟩ := before marked
      cases page
      simp_all
    · rfl

theorem mem_staleHashes_iff (constraints : PageConstraints world) (there : page ∈ world.pages)
    (own : page.orgId = orgId) (cutoff : Nat) :
    page.urlHash ∈ (world.staleRows orgId cutoff).map (·.urlHash) ↔ page.Stale orgId cutoff := by
  -- No other row of the organisation has the page's hash.
  constructor
  · intro hit
    obtain ⟨row, found, same⟩ := List.mem_map.mp hit
    obtain ⟨among, chosen⟩ := List.mem_filter.mp found
    have stale : row.Stale orgId cutoff := of_decide_eq_true chosen
    have alike : (row.orgId, row.urlHash) = (page.orgId, page.urlHash) := by
      rw [stale.1, own, same]
    rwa [← List.inj_on_of_nodup_map constraints.places among there alike]
  · intro stale
    exact List.mem_map.mpr ⟨page, List.mem_filter.mpr ⟨there, decide_eq_true stale⟩, rfl⟩

variable (setup) in
theorem row_stays_iff (constraints : PageConstraints world) (there : page ∈ world.pages)
    (orgId cutoff : Nat) :
    page ∈ ((deleteStalePages setup orgId cutoff).run world).2.pages ↔
      ¬(Cleans world orgId ∧ page.Stale orgId cutoff ∧
        ¬(page.status = .STALE ∧ page.updatedAt = world.now)) := by
  -- The row stays unless it is marked anew.
  by_cases cleans : Cleans world orgId
  · rw [(deleteStalePages_pages orgId cutoff).1 cleans, mem_markStale_iff constraints.ids there,
      mem_staleIds_iff constraints.ids cutoff there]
    tauto
  · rw [(deleteStalePages_pages orgId cutoff).2 cleans]
    exact iff_of_true there fun both => cleans both.1

variable (setup) in
theorem vectors_stay_iff (constraints : PageConstraints world) (there : page ∈ world.pages)
    (orgId cutoff : Nat) :
    (∀ document_ids,
      BridgeJob.deleteDocuments page.orgId document_ids ∈
          ((deleteStalePages setup orgId cutoff).run world).2.bridge.drop world.bridge.length →
        page.urlHash ∉ document_ids) ↔
      ¬(world.fails (.findStale orgId) = false ∧ world.bridgeQueue = true ∧
        world.fails (.addDeleteDocuments orgId) = false ∧ page.Stale orgId cutoff) := by
  -- The vectors stay unless their deletion is queued.
  rw [deleteStalePages_bridge]
  split_ifs with queues
  · obtain ⟨looked, -, connected, accepted⟩ := queues
    simp only [List.drop_left, List.mem_singleton, looked, connected, accepted, true_and]
    constructor
    · intro stay stale
      have hit := (mem_staleHashes_iff constraints there stale.1 cutoff).mpr stale
      exact stay _ (by rw [stale.1]) hit
    · intro spared document_ids job hit
      injection job with own ids
      rw [ids] at hit
      exact spared ((mem_staleHashes_iff constraints there own cutoff).mp hit)
  · simp only [List.drop_length, List.not_mem_nil, false_implies, implies_true, true_iff]
    rintro ⟨looked, connected, accepted, stale⟩
    refine queues ⟨looked, ?_, connected, accepted⟩
    exact List.ne_nil_of_mem (List.mem_filter.mpr ⟨there, decide_eq_true stale⟩)

variable (setup) in
/-- A fresh page is spared exactly if its row is not old, or the cleanup fails before it has done
anything about the page. -/
theorem fresh_page_spared_iff (constraints : PageConstraints world) (orgId cutoff : Nat) :
    ∀ page ∈ world.pages, page.FreshSince cutoff →
      (Spared page world ((deleteStalePages setup orgId cutoff).run world).2 ↔
        ¬(page.Stale orgId cutoff ∧ Reaches world orgId page)) := by
  intro page there _
  have row := row_stays_iff setup constraints there orgId cutoff
  have vectors := vectors_stay_iff setup constraints there orgId cutoff
  constructor
  · rintro ⟨kept, unqueued⟩ ⟨stale, looked, reaches⟩
    by_cases connected : world.bridgeQueue = true
    · rw [if_pos connected] at reaches
      exact vectors.mp unqueued ⟨looked, connected, reaches, stale⟩
    · rw [if_neg connected] at reaches
      have cleans : Cleans world orgId := ⟨looked, fun on => absurd on connected, reaches.1⟩
      exact row.mp kept ⟨cleans, stale, reaches.2⟩
  · intro spared
    refine ⟨row.mpr ?_, vectors.mpr ?_⟩
    · rintro ⟨⟨looked, queued, marked⟩, stale, anew⟩
      refine spared ⟨stale, looked, ?_⟩
      split_ifs with connected
      · exact queued connected
      · exact ⟨marked, anew⟩
    · rintro ⟨looked, connected, accepted, stale⟩
      refine spared ⟨stale, looked, ?_⟩
      rw [if_pos connected]
      exact accepted

end Retention

def refreshedShop : ScrapeWorld :=
  -- The page of the shop, created on the second day and scraped again on the last one.
  { oldShop with
    pages := oldShop.pages.map fun page =>
      { page with createdAt := 24 * hourMs, lastScrapedAt := some (30 * 24 * hourMs) } }

theorem refreshedShop_constraints : PageConstraints refreshedShop where
  ids := by decide
  places := by decide

/-- It is spared by the cleanup of the day that it was created on. -/
theorem fresh_page_spared_shop : ∃ page ∈ refreshedShop.pages,
    page.FreshSince (24 * hourMs) ∧
      Spared page refreshedShop
        ((deleteStalePages shopSetup 1 (24 * hourMs)).run refreshedShop).2 := by
  refine ⟨_, List.mem_singleton.mpr rfl, .inl ⟨30 * 24 * hourMs, rfl, by decide⟩, ?_⟩
  apply (fresh_page_spared_iff shopSetup refreshedShop_constraints 1 (24 * hourMs) _
    (List.mem_singleton.mpr rfl) (.inl ⟨30 * 24 * hourMs, rfl, by decide⟩)).mpr
  rintro ⟨⟨-, old, -⟩, -⟩
  exact Nat.lt_irrefl _ old

/-- A day later its vectors are to be deleted, although it has been scraped since. -/
theorem refreshed_page_deleted : ¬∀ page ∈ refreshedShop.pages,
    page.FreshSince (48 * hourMs) →
      Spared page refreshedShop
        ((deleteStalePages shopSetup 1 (48 * hourMs)).run refreshedShop).2 := by
  intro spared
  have kept := spared _ (List.mem_singleton.mpr rfl)
    (.inl ⟨30 * 24 * hourMs, rfl, by decide⟩)
  exact kept.vectors [shopUrl.href] (by decide +kernel) (by decide)

end HelpForge.Scraper
