import HelpForge.Scraper.Effects

set_option autoImplicit false

namespace HelpForge.Scraper

open Lib Program

variable (setup : ScraperSetup)

def cleaned (world : ScrapeWorld) : ScrapeWorld := ((runScrapeCleanup setup).run world).2

def ScrapeWorld.HasStale (world : ScrapeWorld) (id : Nat) : Prop :=
  -- The row of a page that has been marked as stale and is older than the retention period.
  ∃ page ∈ world.pages, page.id = id ∧ page.status = .STALE ∧
    page.createdAt < world.now - setup.retentionMs

def ScrapeWorld.HasRow (world : ScrapeWorld) (id : Nat) : Prop :=
  ∃ page ∈ world.pages, page.id = id

def hourMs : Nat := 60 * 60 * 1000

/-- From the end of one run to the beginning of the next one, in which the page is not enqueued: its
row is left alone, whatever happens to the others. -/
structure Interlude (id : Nat) (before after : ScrapeWorld) : Prop where
  early : before.now + 24 * hourMs ≤ after.now
  late : after.now ≤ before.now + 26 * hourMs
  row : ∀ page ∈ before.pages, page.id = id → page ∈ after.pages

namespace Cleanup

variable {setup}

def Held (id cutoff now : Nat) (world : ScrapeWorld) : Prop :=
  -- The row in the course of a run.
  world.now = now ∧
    ∃ page ∈ world.pages, page.id = id ∧ page.status = .STALE ∧ page.createdAt < cutoff

def Marked (id cutoff now orgId : Nat) (world : ScrapeWorld) : Prop :=
  -- The row once the pages of an organisation have been marked.
  world.now = now ∧
    ∃ page ∈ world.pages, page.id = id ∧ page.status = .STALE ∧ page.createdAt < cutoff ∧
      (page.orgId = orgId → page.updatedAt = now)

variable {id cutoff now orgId : Nat} {world : ScrapeWorld}

theorem Marked.held (marked : Marked id cutoff now orgId world) : Held id cutoff now world := by
  obtain ⟨time, page, found, same, stale, old, -⟩ := marked
  exact ⟨time, page, found, same, stale, old⟩

theorem keeps_invalidates {inv : ScrapeWorld → Prop} (orgId : Nat) (rows : List ScrapedPage)
    (kept : ∀ world urlHash, inv world → inv (world.setCached orgId urlHash false)) :
    Keeps inv (rows.mapM fun page => invalidate orgId (setup.hashUrl page.url)) :=
  Keeps.mapM fun _ _ => keeps_cacheStatement fun world holds => kept world _ holds

theorem deleteStalePages_marks (held : Held id cutoff now world) :
    wp (deleteStalePages setup orgId cutoff)
      (fun result reached =>
        match result with
        | .ok _ => Marked id cutoff now orgId reached
        | .error _ => Held id cutoff now reached) world := by
  obtain ⟨time, page, found, same, stale, old⟩ := held
  unfold deleteStalePages
  rw [wp_bind, wp_statement]
  refine ⟨fun _ => ⟨time, page, found, same, stale, old⟩, fun _ => ?_⟩
  have known : page.orgId = orgId →
      page ∈ world.pages.filter fun page => decide (page.Stale orgId cutoff) := by
    intro own
    have selected : page.Stale orgId cutoff := ⟨own, old, .inr (.inr stale)⟩
    exact List.mem_filter.mpr ⟨found, decide_eq_true selected⟩
  generalize (world.pages.filter fun page => decide (page.Stale orgId cutoff)) = staleRows at known
  dsimp only
  by_cases none : staleRows = []
  · rw [if_pos none]
    have other : page.orgId ≠ orgId := by
      intro own
      simp [none] at known
      exact known own
    exact ⟨time, page, found, same, stale, old, fun own => absurd own other⟩
  · rw [if_neg none]
    -- The job of the bridge leaves the rows as they are.
    have queued : Keeps (fun reached => reached.now = now ∧ reached.pages = world.pages)
        (enqueueDeleteDocuments orgId (staleRows.map (·.urlHash))) :=
      keeps_enqueueBridgeJob fun _ holds => holds
    refine (queued world ⟨time, rfl⟩).bind (fun value reached kept => ?_) fun _ reached kept => ?_
    · obtain ⟨later, unchanged⟩ := kept
      rw [markAndInvalidate, wp_bind, wp_statement]
      refine ⟨fun _ => ⟨later, page, unchanged ▸ found, same, stale, old⟩, fun _ => ?_⟩
      have rest : Keeps (Marked id cutoff now orgId)
          (staleRows.mapM (fun page => invalidate orgId (setup.hashUrl page.url)) >>= fun _ =>
            pure (staleRows.length, value)) :=
        Keeps.bind (keeps_invalidates orgId staleRows fun _ _ holds => holds) fun _ => Keeps.pure _
      refine (rest _ ?_).weaken ?_
      · refine ⟨later, ?_⟩
        simp only [ScrapeWorld.markStale, unchanged]
        refine ⟨_, List.mem_map.mpr ⟨page, found, rfl⟩, ?_⟩
        by_cases marked : page.id ∈ staleRows.map (·.id)
        · rw [if_pos marked]
          exact ⟨same, rfl, old, fun _ => later⟩
        · have other : page.orgId ≠ orgId := fun own =>
            marked (List.mem_map.mpr ⟨page, known own, rfl⟩)
          rw [if_neg marked]
          exact ⟨same, stale, old, fun own => absurd own other⟩
      · rintro (failure | result) left marked
        · exact marked.held
        · exact marked
    · obtain ⟨later, unchanged⟩ := kept
      exact ⟨later, page, unchanged ▸ found, same, stale, old⟩

theorem purge_held (marked : Marked id cutoff now orgId world) :
    wp (purgeStaleDbRows orgId ((now : Int) - purgeWindowMs))
      (fun _ reached => Held id cutoff now reached) world := by
  obtain ⟨time, page, found, same, stale, old, fresh⟩ := marked
  unfold purgeStaleDbRows
  rw [wp_statement]
  refine ⟨fun _ => ⟨time, page, found, same, stale, old⟩, fun _ => ⟨time, page, ?_, same, stale, old⟩⟩
  have kept : ¬page.Purged orgId ((now : Int) - purgeWindowMs) := by
    rintro ⟨own, -, late⟩
    have updated := fresh own
    omega
  exact List.mem_filter.mpr ⟨found, by simpa using kept⟩

theorem cleanupOrg_held (result : CleanupResult) :
    Keeps (Held id cutoff now)
      (cleanupOrg setup cutoff ((now : Int) - purgeWindowMs) result orgId) := by
  refine Keeps.recover (fun world held => ?_) fun _ => Keeps.pure _
  refine (deleteStalePages_marks held).bind (fun value reached marked => ?_) fun _ _ held => held
  refine (purge_held marked).bind (fun _ _ held => ?_) fun _ _ held => held
  exact held

theorem cleaned_held (stale : world.HasStale setup id) :
    (cleaned setup world).HasStale setup id := by
  -- A run leaves an old page that is stale where it is.
  have held : Held id (world.now - setup.retentionMs) world.now world := ⟨rfl, stale⟩
  have kept : Keeps (Held id (world.now - setup.retentionMs) world.now)
      (do
        let orgs ← statement .findOrgs fun world => ((world.pages.map (·.orgId)).dedup, world)
        orgs.foldlM (cleanupOrg setup (world.now - setup.retentionMs)
          ((world.now : Int) - purgeWindowMs)) {}) :=
    Keeps.bind (keeps_statement fun _ holds => holds) fun orgs =>
      Keeps.foldlM fun result orgId _ => cleanupOrg_held result
  have run : Held id (world.now - setup.retentionMs) world.now (cleaned setup world) :=
    kept world held
  obtain ⟨time, page, found, same, still, old⟩ := run
  exact ⟨page, found, same, still, by rwa [time]⟩

end Cleanup

def MarkedBy (world : ScrapeWorld) (id : Nat) : Prop :=
  -- The row of an old page that the run marks as stale.
  ∃ page ∈ (cleaned setup world).pages, page.id = id ∧ page.status = .STALE ∧
    page.createdAt < (cleaned setup world).now - setup.retentionMs ∧
    page.updatedAt = (cleaned setup world).now

instance (world : ScrapeWorld) (id : Nat) : Decidable (MarkedBy setup world id) :=
  inferInstanceAs (Decidable (∃ page ∈ _, _))

instance (world : ScrapeWorld) (id : Nat) : Decidable (world.HasRow id) :=
  inferInstanceAs (Decidable (∃ page ∈ _, _))

/-- The worlds in which one run begins and a later one. -/
inductive Runs (id : Nat) (first : ScrapeWorld) : ScrapeWorld → Prop where
  | first : Runs id first first
  | next {world later : ScrapeWorld} :
    Runs id first world → Interlude id (cleaned setup world) later → Runs id first later

variable {setup}

theorem Interlude.stale {id : Nat} {before after : ScrapeWorld}
    (interlude : Interlude id before after) (stale : before.HasStale setup id) :
    after.HasStale setup id := by
  -- Between two runs the clock goes on, and the row stays.
  obtain ⟨page, found, same, still, old⟩ := stale
  have later := interlude.early
  exact ⟨page, interlude.row page found same, same, still, by omega⟩

theorem Runs.stale {id : Nat} {first last : ScrapeWorld} (runs : Runs setup id first last)
    (marked : (cleaned setup first).HasStale setup id) :
    (cleaned setup last).HasStale setup id := by
  induction runs with
  | first => exact marked
  | next _ interlude ih => exact Cleanup.cleaned_held (interlude.stale ih)

variable (setup)

/-- The row is there when the second run after that is over, and would be after any other. -/
theorem stale_never_purged (id : Nat) (world first second : ScrapeWorld)
    (marked : MarkedBy setup world id) (dayAfter : Interlude id (cleaned setup world) first)
    (nextDay : Interlude id (cleaned setup first) second) :
    (cleaned setup second).HasRow id ∧
      ∀ last, Runs setup id world last → (cleaned setup last).HasRow id := by
  have stale : (cleaned setup world).HasStale setup id := by
    obtain ⟨page, found, same, still, old, -⟩ := marked
    exact ⟨page, found, same, still, old⟩
  have stays : ∀ last, Runs setup id world last → (cleaned setup last).HasRow id := by
    intro last runs
    obtain ⟨page, found, same, -⟩ := runs.stale stale
    exact ⟨page, found, same⟩
  exact ⟨stays second (.next (.next .first dayAfter) nextDay), stays⟩

/-- A page that was scraped a month ago. -/
def oldShop : ScrapeWorld where
  pages :=
    [{ id := 0, orgId := 1, url := shopUrl.href, urlHash := shopUrl.href, status := .COMPLETED
       createdAt := 0, updatedAt := 0 }]
  nextId := 1
  web := shopWeb
  now := 31 * 24 * hourMs

def nextMorning (world : ScrapeWorld) : ScrapeWorld :=
  { cleaned shopSetup world with now := (cleaned shopSetup world).now + 25 * hourMs }

theorem nextMorning_interlude (world : ScrapeWorld) :
    Interlude 0 (cleaned shopSetup world) (nextMorning world) where
  early := by
    simp only [nextMorning, hourMs]
    omega
  late := by
    simp only [nextMorning, hourMs]
    omega
  row := fun _ found _ => found

/-- It is there after the second run that follows the one that marked it. -/
theorem old_page_stays :
    MarkedBy shopSetup oldShop 0 ∧ Interlude 0 (cleaned shopSetup oldShop) (nextMorning oldShop) ∧
      Interlude 0 (cleaned shopSetup (nextMorning oldShop)) (nextMorning (nextMorning oldShop)) ∧
      (cleaned shopSetup (nextMorning (nextMorning oldShop))).HasRow 0 :=
  ⟨by decide +kernel, nextMorning_interlude _, nextMorning_interlude _, by decide +kernel⟩

theorem stale_never_purged_shop :
    (cleaned shopSetup (nextMorning (nextMorning oldShop))).HasRow 0 :=
  (stale_never_purged shopSetup 0 oldShop (nextMorning oldShop) (nextMorning (nextMorning oldShop))
    (by decide +kernel) (nextMorning_interlude _) (nextMorning_interlude _)).1

end HelpForge.Scraper
