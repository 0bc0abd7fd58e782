import HelpForge.Auth.Service
import HelpForge.Automation.Assignees
import HelpForge.Scraper.Tenants
import HelpForge.Tickets.Tenants

set_option autoImplicit false

namespace HelpForge.Http

open Lib
open Program (run_attempt run_bind run_zoom)
open Automation (AutomationWorld TicketPatch OverrideBody)
open Lib.Program (Keeps)
open Scraper (ScrapeWorld SamePages PageKeys Due PendingSinceNow Deletable Cleans MarkedAnew)
open Tickets (TicketCall TicketKeys SameTickets Rewrites Writes)

/-- The tables of the gateway: those of the tickets, and those of the scraper. -/
structure Gateway where
  automation : AutomationWorld
  scraper : ScrapeWorld

abbrev Handler (α : Type) := Program Gateway ServiceError α

namespace Gateway

def setWorld (world : World) (gateway : Gateway) : Gateway :=
  { gateway with automation := { gateway.automation with toWorld := world } }

def world (gateway : Gateway) : World := gateway.automation.toWorld

end Gateway

def inWorld {α : Type} (call : Call α) : Handler α := call.zoom Gateway.world Gateway.setWorld

def inAutomation {α : Type} (call : Automation.AutomationCall α) : Handler α :=
  call.zoom Gateway.automation fun automation gateway => { gateway with automation }

def inScraper {α : Type} (call : Scraper.ScrapeCall α) : Handler α :=
  call.zoom Gateway.scraper fun scraper gateway => { gateway with scraper }

section Zoom

variable {α : Type} (gateway : Gateway)

theorem run_inWorld (call : Call α) :
    (inWorld call).run gateway =
      ((call.run gateway.world).1, gateway.setWorld (call.run gateway.world).2) :=
  run_zoom Gateway.world Gateway.setWorld (fun _ _ => rfl) (fun _ => rfl) (fun _ _ _ => rfl)
    call gateway

theorem run_inAutomation (call : Automation.AutomationCall α) :
    (inAutomation call).run gateway =
      ((call.run gateway.automation).1,
        { gateway with automation := (call.run gateway.automation).2 }) :=
  run_zoom Gateway.automation (fun automation gateway => { gateway with automation })
    (fun _ _ => rfl) (fun _ => rfl) (fun _ _ _ => rfl) call gateway

theorem run_inScraper (call : Scraper.ScrapeCall α) :
    (inScraper call).run gateway =
      ((call.run gateway.scraper).1,
        { gateway with scraper := (call.run gateway.scraper).2 }) :=
  run_zoom Gateway.scraper (fun scraper gateway => { gateway with scraper })
    (fun _ _ => rfl) (fun _ => rfl) (fun _ _ _ => rfl) call gateway

end Zoom

def isJsSpace (char : Char) : Bool :=
  -- The white space and the line terminators of the language.
  char.toNat ∈ [0x9, 0xA, 0xB, 0xC, 0xD, 0x20, 0xA0, 0x1680, 0x2028, 0x2029, 0x202F, 0x205F, 0x3000,
    0xFEFF] || (0x2000 ≤ char.toNat && char.toNat ≤ 0x200A)

def trim (text : String) : String :=
  String.ofList ((text.toList.dropWhile isJsSpace).reverse.dropWhile isJsSpace).reverse

structure EnqueueBody where
  url : Option String := none
  org_id : Option Nat := none
  -- None where the table has no such priority.
  priority : Option Scraper.Priority := some .normal

inductive GatewayRequest where
  | ticket (call : TicketCall)
  | toggleAI (ticketId : Nat) (aiActive : Option Bool)
  | overrideDecision (ticketId : Nat) (body : OverrideBody)
  | enqueue (body : EnqueueBody)
  | deletePage (orgId : Nat) (urlHash : String)
  -- With the days as `parseInt` reads them.
  | cleanup (orgId : Nat) (older_than_days : Option Int)

/-- The refinements of `overrideDecisionSchema`. -/
def overrideAccepted (body : OverrideBody) : Bool :=
  (body.action.isSome || body.status.isSome) &&
    (body.action != some .assign || body.assignToId.isSome)

/-- `parseInt(older_than_days, 10) || 30`. -/
def cleanupDays (older_than_days : Option Int) : Int :=
  match older_than_days with
  | none => 30
  | some days => if days = 0 then 30 else days

def cleanupCutoff (now : Nat) (older_than_days : Option Int) : Int :=
  now - cleanupDays older_than_days * (24 * 60 * 60 * 1000)

/-- The times that a `Date` can hold. -/
def isDate (time : Int) : Bool := time.natAbs ≤ 8640000000000000

structure GatewaySetup where
  locale : Tickets.Locale
  scraper : Scraper.ScraperSetup

section Requests

variable (setup : GatewaySetup) (token : Option Claims)

def validated (accepted : Bool) : Handler Unit :=
  Program.require accepted (.rejected 400 "Validation error")

/-- `requireAuth`, and the handler. -/
def scraperRoute (handler : Scraper.ScrapeCall Unit) : Handler Unit := do
  let _ ← inWorld (Auth.authenticate token)
  inScraper handler

def enqueueHandler (body : EnqueueBody) : Scraper.ScrapeCall Unit := do
  let url ← Program.orFail (body.url.filter (· ≠ "")) (.rejected 400 "url is required")
  let orgId ← Program.orFail body.org_id (.rejected 400 "org_id is required")
  let _ ← Scraper.checkAndEnqueue setup.scraper orgId (trim url) body.priority

def deletePageHandler (orgId : Nat) (urlHash : String) : Scraper.ScrapeCall Unit := do
  let _ ← Scraper.deletePage setup.scraper orgId urlHash

def cleanupHandler (orgId : Nat) (older_than_days : Option Int) : Scraper.ScrapeCall Unit := do
  let cutoff ← Program.reads fun world => cleanupCutoff world.now older_than_days
  -- A date that is none is refused by the query.
  Program.require (isDate cutoff) (.unavailable "statement")
  -- No row is older than the epoch.
  let _ ← Scraper.deleteStalePages setup.scraper orgId cutoff.toNat

def GatewayRequest.handler : GatewayRequest → Handler Unit
  | ticket call => inWorld do
    let authenticated ← Auth.authenticate token
    call.service setup.locale authenticated.user.id
  | toggleAI ticketId aiActive => do
    validated aiActive.isSome
    let _ ← inAutomation (Automation.toggleAI ticketId (aiActive.getD false))
  | overrideDecision ticketId body => do
    validated (overrideAccepted body)
    let _ ← inAutomation (Automation.overrideDecision ticketId body)
  | enqueue body => scraperRoute token (enqueueHandler setup body)
  | deletePage orgId urlHash => scraperRoute token (deletePageHandler setup orgId urlHash)
  | cleanup orgId older_than_days => scraperRoute token (cleanupHandler setup orgId older_than_days)

end Requests

/-- No ticket and no page of the organisation is created, changed or deleted. -/
structure Untouched (organizationId : Nat) (before after : Gateway) : Prop where
  tickets : SameTickets organizationId before.world.db after.world.db
  pages : SamePages organizationId before.scraper after.scraper

/-- The keys of both tables are unique and generated. -/
structure Stored (gateway : Gateway) : Prop where
  tickets : TicketKeys gateway.world.db
  pages : PageKeys gateway.scraper

def authenticates (token : Option Claims) (world : World) : Option Auth.Authenticated :=
  ((Auth.authenticate token).run world).1.toOption

def Outsider (organizationId : Nat) (token : Option Claims) (gateway : Gateway) : Prop :=
  -- The token, if it is a valid one, is not of a member.
  ∀ authenticated, authenticates token gateway.world = some authenticated →
    gateway.world.db.findMembership organizationId authenticated.user.id = none

def Patches (organizationId : Nat) (state : AutomationWorld) (ticketId : Nat)
    (patch : TicketPatch) : Prop :=
  -- The organisation's ticket is written, and not with what it already says.
  state.down .database = false ∧ Rewrites organizationId state.db state.now ticketId patch.apply

def Strikes (setup : GatewaySetup) (organizationId : Nat) (token : Option Claims)
    (before : Gateway) : GatewayRequest → Prop
  -- What of the request goes past the checks of its route, to a row of the organisation.
  | .ticket call =>
    -- The cache still has the membership.
    ∃ authenticated, authenticates token before.world = some authenticated ∧
      (before.world.membershipCache organizationId authenticated.user.id).isSome = true ∧
      Writes setup.locale organizationId before.world authenticated.user.id call
  | .toggleAI ticketId aiActive =>
    ∃ flag ∈ aiActive, Patches organizationId before.automation ticketId { aiActive := some flag }
  | .overrideDecision ticketId body =>
    overrideAccepted body = true ∧
      Patches organizationId before.automation ticketId (Automation.overridePatch body)
  | .enqueue body =>
    (authenticates token before.world).isSome = true ∧ body.org_id = some organizationId ∧
      ∃ url ∈ body.url.filter (· ≠ ""),
        Due setup.scraper before.scraper organizationId (trim url) ∧
          ¬PendingSinceNow before.scraper organizationId (setup.scraper.hashUrl (trim url))
  | .deletePage orgId urlHash =>
    (authenticates token before.world).isSome = true ∧ orgId = organizationId ∧
      Deletable before.scraper organizationId urlHash
  | .cleanup orgId older_than_days =>
    (authenticates token before.world).isSome = true ∧ orgId = organizationId ∧
      let cutoff := cleanupCutoff before.scraper.now older_than_days
      isDate cutoff = true ∧ Cleans before.scraper organizationId ∧
        MarkedAnew before.scraper organizationId cutoff.toNat

section Routes

variable {setup : GatewaySetup} {organizationId : Nat} {token : Option Claims} {before : Gateway}

theorem Untouched.refl (organizationId : Nat) (gateway : Gateway) :
    Untouched organizationId gateway gateway := ⟨SameRows.refl _ _, SameRows.refl _ _⟩

structure Leaves (world reached : World) : Prop where
  tables : reached.db = world.db
  clock : reached.now = world.now
  copies : reached.membershipCache = world.membershipCache

theorem verifyAccessToken_leaves (accessToken : Claims) (world : World) :
    Keeps (Leaves world) (Auth.verifyAccessToken accessToken) := by
  refine (Keeps.reads _).bind fun _ => ?_
  refine (Keeps.require _ _).bind fun _ => ?_
  exact (Keeps.require _ _).bind fun _ => Keeps.pure _

theorem isTokenBlacklisted_leaves (jti : Nat) (world : World) :
    Keeps (Leaves world) (Auth.isTokenBlacklisted jti) := by
  refine (Keeps.reads _).bind fun cached => ?_
  split
  · exact Keeps.pure _
  · refine (Keeps.reads _).bind fun entry => ?_
    split
    · have put (reached : World) (leaves : Leaves world reached) :
          Leaves world (reached.putBlacklisted jti) := ⟨leaves.tables, leaves.clock, leaves.copies⟩
      exact Keeps.bind (Keeps.modify put) fun _ => Keeps.pure _
    · exact Keeps.pure _

theorem findUserById_leaves (userId : Nat) (world : World) :
    Keeps (Leaves world) (Auth.findUserById userId) := by
  refine (Keeps.reads _).bind fun cached => ?_
  cases cached with
  | some copy => exact Keeps.pure _
  | none =>
    refine (Keeps.reads _).bind fun user => ?_
    cases user.filter fun user => !user.isDeleted with
    | none => exact Keeps.pure _
    | some user =>
      have put (reached : World) (leaves : Leaves world reached) :
          Leaves world (reached.putUser (Auth.userToJson (Auth.stripPassword user))) :=
        ⟨leaves.tables, leaves.clock, leaves.copies⟩
      exact Keeps.bind (Keeps.modify put) fun _ => Keeps.pure _

theorem checkIssuedAt_leaves (decoded : Claims) (user : AuthUser) (world : World) :
    Keeps (Leaves world) (Auth.checkIssuedAt decoded user) := by
  unfold Auth.checkIssuedAt
  split
  · exact Keeps.pure _
  · exact Keeps.require _ _
  · exact Keeps.fail _

theorem authenticate_leaves (token : Option Claims) (world : World) :
    Leaves world ((Auth.authenticate token).run world).2 := by
  have kept : Keeps (Leaves world) (Auth.authenticate token) := by
    refine (Keeps.orFail _ _).bind fun token => ?_
    refine (verifyAccessToken_leaves token world).bind fun decoded => ?_
    refine (isTokenBlacklisted_leaves decoded.jti world).bind fun blacklisted => ?_
    refine (Keeps.require _ _).bind fun _ => ?_
    refine (findUserById_leaves decoded.sub world).bind fun user => ?_
    refine (Keeps.orFail _ _).bind fun user => ?_
    exact (checkIssuedAt_leaves decoded user world).bind fun _ => Keeps.pure _
  exact kept world ⟨rfl, rfl, rfl⟩

theorem Leaves.sameTickets {world reached : World} (leaves : Leaves world reached) :
    SameTickets organizationId world.db reached.db := by
  rw [leaves.tables]
  exact SameRows.refl _ _

theorem seenMembership_of_none {world : World} {userId : Nat}
    (none : world.db.findMembership organizationId userId = none) :
    Tickets.seenMembership world organizationId userId =
      world.membershipCache organizationId userId := by
  simp [Tickets.seenMembership, none]

theorem ticket_untouched_iff (setup : GatewaySetup) (stored : Stored before)
    (outsider : Outsider organizationId token before) (call : TicketCall) :
    Untouched organizationId before
        (((GatewayRequest.ticket call).handler setup token).run before).2 ↔
      ¬Strikes setup organizationId token before (.ticket call) := by
  have leaves := authenticate_leaves token before.world
  rw [GatewayRequest.handler, run_inWorld, run_bind]
  rcases ran : (Auth.authenticate token).run before.world with ⟨failure | authenticated, reached⟩
  · rw [ran] at leaves
    refine iff_of_true ⟨leaves.sameTickets, SameRows.refl _ _⟩ ?_
    rintro ⟨authenticated, valid, -⟩
    rw [authenticates, ran] at valid
    cases valid
  · rw [ran] at leaves
    have valid : authenticates token before.world = some authenticated := by
      rw [authenticates, ran]
      rfl
    have spares := Tickets.service_spares_iff setup.locale organizationId authenticated.user.id call
      reached (by rw [leaves.tables]; exact stored.tickets)
    rw [leaves.tables, Tickets.writes_congr _ _ _ _ leaves.tables leaves.clock leaves.copies]
      at spares
    have untouched (after : World) :
        Untouched organizationId before (before.setWorld after) ↔
          SameTickets organizationId before.world.db after.db :=
      ⟨fun both => both.tickets, fun tickets => ⟨tickets, SameRows.refl _ _⟩⟩
    refine (untouched _).trans (spares.trans (not_congr ?_))
    constructor
    · intro writes
      have member := writes.member
      rw [seenMembership_of_none (outsider authenticated valid)] at member
      exact ⟨authenticated, valid, member, writes⟩
    · rintro ⟨other, same, -, writes⟩
      rw [valid, Option.some.injEq] at same
      exact same ▸ writes

theorem within_patch (patch : TicketPatch) : Tickets.Within patch.apply :=
  ⟨fun _ => rfl, fun _ => rfl⟩

theorem patch_untouched_iff (organizationId : Nat) {state : AutomationWorld}
    (keys : TicketKeys state.db) (ticketId : Nat) (patch : TicketPatch) :
    SameTickets organizationId state.db
        ((Automation.updateTicket ticketId patch).run state).2.db ↔
      ¬Patches organizationId state ticketId patch := by
  rcases ran : (Automation.updateTicket ticketId patch).run state with ⟨failure | ticket, reached⟩
  · rw [Program.attempt_failed _ _ _ _ ran]
    refine iff_of_true (SameRows.refl _ _) ?_
    rintro ⟨up, old, found, -, resolves, -⟩
    have written : Tickets.keysResolve state.db
        { patch.apply old with updatedAt := state.now } = true := resolves
    rw [Automation.updateTicket, Automation.statement, run_attempt] at ran
    simp [up, found, written, Except.map] at ran
  · obtain ⟨old, found, rfl, resolves, up, rfl⟩ := Automation.updateTicket_ok _ _ _ _ _ ran
    rw [Patches, and_iff_right up,
      ← Tickets.rewritten_spares_iff keys patch.apply (within_patch patch) state.now old found
        resolves]
    rfl

theorem overrideDecision_left (ticketId : Nat) (body : OverrideBody) (state : AutomationWorld) :
    ((Automation.overrideDecision ticketId body).run state).2 =
      ((Automation.updateTicket ticketId (Automation.overridePatch body)).run state).2 := by
  unfold Automation.overrideDecision Automation.getTicket Automation.query Automation.updateTicket
    Automation.statement
  rw [run_bind, run_attempt]
  by_cases down : state.down .database = true
  · rw [run_attempt]
    simp [down]
  · cases found : state.db.findTicket ticketId with
    | none =>
      rw [run_attempt]
      simp [down, found, Except.map, Program.orFail, World.withDb]
    | some ticket =>
      simp [down, found, Except.map, Program.orFail, World.withDb]

theorem discarded {σ ε α : Type} (call : Program σ ε α) (before : σ) :
    ((do let _ ← call : Program σ ε Unit).run before).2 = (call.run before).2 := by
  rw [run_bind]
  rcases call.run before with ⟨failure | value, reached⟩ <;> rfl

theorem inAutomation_untouched_iff {α : Type} (call : Automation.AutomationCall α) :
    Untouched organizationId before ((do let _ ← inAutomation call : Handler Unit).run before).2 ↔
      SameTickets organizationId before.automation.db (call.run before.automation).2.db := by
  rw [discarded, run_inAutomation]
  exact ⟨fun untouched => untouched.tickets, fun tickets => ⟨tickets, SameRows.refl _ _⟩⟩

theorem toggleAI_untouched_iff (setup : GatewaySetup) (stored : Stored before) (ticketId : Nat)
    (aiActive : Option Bool) :
    Untouched organizationId before
        (((GatewayRequest.toggleAI ticketId aiActive).handler setup token).run before).2 ↔
      ¬Strikes setup organizationId token before (.toggleAI ticketId aiActive) := by
  cases aiActive with
  | none => exact iff_of_true (.refl _ _) (by simp [Strikes])
  | some flag =>
    refine (inAutomation_untouched_iff _).trans ?_
    refine (patch_untouched_iff organizationId stored.tickets ticketId _).trans ?_
    simp [Strikes]

theorem overrideDecision_untouched_iff (setup : GatewaySetup) (stored : Stored before)
    (ticketId : Nat) (body : OverrideBody) :
    Untouched organizationId before
        (((GatewayRequest.overrideDecision ticketId body).handler setup token).run before).2 ↔
      ¬Strikes setup organizationId token before (.overrideDecision ticketId body) := by
  have written := patch_untouched_iff organizationId stored.tickets ticketId
    (Automation.overridePatch body)
  rw [← overrideDecision_left, ← inAutomation_untouched_iff] at written
  rw [GatewayRequest.handler, validated, Strikes]
  cases accepted : overrideAccepted body with
  | false => exact iff_of_true (.refl _ _) (by simp)
  | true =>
    rw [not_and, ← written]
    simp only [true_implies]
    rfl

theorem scraperRoute_untouched_iff (handler : Scraper.ScrapeCall Unit) :
    Untouched organizationId before ((scraperRoute token handler).run before).2 ↔
      ((authenticates token before.world).isSome = true →
        SamePages organizationId before.scraper (handler.run before.scraper).2) := by
  have leaves := authenticate_leaves token before.world
  unfold scraperRoute
  rw [run_bind, run_inWorld]
  rcases ran : (Auth.authenticate token).run before.world with ⟨failure | authenticated, reached⟩
  · rw [ran] at leaves
    refine iff_of_true ⟨leaves.sameTickets, SameRows.refl _ _⟩ ?_
    simp [authenticates, ran, Except.toOption]
  · rw [ran] at leaves
    dsimp only
    rw [run_inScraper]
    have known : (authenticates token before.world).isSome = true := by
      simp [authenticates, ran, Except.toOption]
    exact ⟨fun untouched _ => untouched.pages, fun pages => ⟨leaves.sameTickets, pages known⟩⟩

theorem checkAndEnqueue_spares_iff (setup : Scraper.ScraperSetup) (organizationId : Nat)
    (url : String) (priority : Option Scraper.Priority) {world : ScrapeWorld}
    (keys : PageKeys world) :
    SamePages organizationId world
        ((Scraper.checkAndEnqueue setup organizationId url priority).run world).2 ↔
      ¬(Due setup world organizationId url ∧
        ¬PendingSinceNow world organizationId (setup.hashUrl url)) := by
  -- A page of the organisation that is enqueued.
  by_cases due : Due setup world organizationId url
  · rw [SamePages, (Scraper.checkAndEnqueue_pages organizationId url priority).1 due]
    rw [← SamePages, Scraper.upsert_spares_iff keys]
    simp [due]
  · rw [SamePages, (Scraper.checkAndEnqueue_pages organizationId url priority).2 due]
    exact iff_of_true (SameRows.refl _ _) fun both => due both.1

theorem enqueue_untouched_iff (setup : GatewaySetup) (stored : Stored before) (body : EnqueueBody) :
    Untouched organizationId before
        (((GatewayRequest.enqueue body).handler setup token).run before).2 ↔
      ¬Strikes setup organizationId token before (.enqueue body) := by
  rw [GatewayRequest.handler, scraperRoute_untouched_iff, Strikes, not_and]
  refine imp_congr_right fun _ => ?_
  unfold enqueueHandler
  cases body.url.filter (· ≠ "") with
  | none => exact iff_of_true (SameRows.refl _ _) (by simp)
  | some url =>
    cases named : body.org_id with
    | none => exact iff_of_true (SameRows.refl _ _) (by simp)
    | some orgId =>
      change SamePages organizationId before.scraper (Program.run (do
        let _ ← Scraper.checkAndEnqueue setup.scraper orgId (trim url) body.priority) _).2 ↔ _
      rw [discarded]
      by_cases own : orgId = organizationId
      · subst own
        rw [checkAndEnqueue_spares_iff _ _ _ _ stored.pages]
        simp
      · refine iff_of_true (Scraper.checkAndEnqueue_elsewhere _ _ own) ?_
        simp [own]

theorem deletePage_untouched_iff (setup : GatewaySetup) (stored : Stored before) (orgId : Nat)
    (urlHash : String) :
    Untouched organizationId before
        (((GatewayRequest.deletePage orgId urlHash).handler setup token).run before).2 ↔
      ¬Strikes setup organizationId token before (.deletePage orgId urlHash) := by
  rw [GatewayRequest.handler, scraperRoute_untouched_iff, Strikes, not_and]
  refine imp_congr_right fun _ => ?_
  rw [deletePageHandler, discarded]
  by_cases own : orgId = organizationId
  · subst own
    rw [Scraper.deletePage_spares_iff stored.pages]
    simp
  · exact iff_of_true (Scraper.deletePage_elsewhere _ own) fun both => own both.1

theorem cleanup_untouched_iff (setup : GatewaySetup) (stored : Stored before) (orgId : Nat)
    (older_than_days : Option Int) :
    Untouched organizationId before
        (((GatewayRequest.cleanup orgId older_than_days).handler setup token).run before).2 ↔
      ¬Strikes setup organizationId token before (.cleanup orgId older_than_days) := by
  rw [GatewayRequest.handler, scraperRoute_untouched_iff, Strikes, not_and]
  refine imp_congr_right fun _ => ?_
  rw [cleanupHandler, run_bind, Program.run_reads]
  dsimp only
  cases valid : isDate (cleanupCutoff before.scraper.now older_than_days) with
  | false => exact iff_of_true (SameRows.refl _ _) (by simp)
  | true =>
    change SamePages organizationId before.scraper (Program.run (do
      let _ ← Scraper.deleteStalePages setup.scraper orgId _) _).2 ↔ _
    rw [discarded]
    by_cases own : orgId = organizationId
    · subst own
      rw [Scraper.deleteStalePages_spares_iff stored.pages]
      simp
    · exact iff_of_true (Scraper.deleteStalePages_elsewhere stored.pages _ own) fun both =>
        own both.1

/-- A request of an outsider touches a row of the organisation exactly where it goes past the checks
of its route: those of the tickets look for a membership, of which the cache may have a copy that is
out of date; those of the scraper ask for anybody's token, and those of the automation for none. -/
theorem writes_isolated_iff (setup : GatewaySetup) (organizationId : Nat) (token : Option Claims)
    (request : GatewayRequest) (before : Gateway) (stored : Stored before)
    (outsider : Outsider organizationId token before) :
    Untouched organizationId before ((request.handler setup token).run before).2 ↔
      ¬Strikes setup organizationId token before request := by
  cases request with
  | ticket call => exact ticket_untouched_iff setup stored outsider call
  | toggleAI ticketId aiActive => exact toggleAI_untouched_iff setup stored ticketId aiActive
  | overrideDecision ticketId body =>
    exact overrideDecision_untouched_iff setup stored ticketId body
  | enqueue body => exact enqueue_untouched_iff setup stored body
  | deletePage orgId urlHash => exact deletePage_untouched_iff setup stored orgId urlHash
  | cleanup orgId older_than_days => exact cleanup_untouched_iff setup stored orgId older_than_days

end Routes

def shopGateway : GatewaySetup where
  locale := { startOfDay := id, startOfWeek := id }
  scraper := Scraper.shopSetup

def printerTicket : Ticket where
  id := 3
  title := "Printer"
  organizationId := 1
  createdById := 2

/-- One organisation with a ticket and a page. -/
def openShop : Gateway where
  automation :=
    { db :=
        { users := [{ id := 2, email := "owner@shop.com", password := "" }]
          organizations := [{ id := 1, name := "Shop" }]
          tickets := [printerTicket]
          nextId := 4 }
      now := 5 }
  scraper := Scraper.oldShop

theorem openShop_stored : Stored openShop where
  tickets := ⟨by decide, by decide⟩
  pages := ⟨by decide, by decide⟩

theorem stranger_outside (organizationId : Nat) (gateway : Gateway) :
    Outsider organizationId none gateway := by
  -- Whoever presents no token is an outsider.
  intro authenticated valid
  cases valid

/-- A stranger cannot close the ticket. -/
theorem stranger_refused :
    Untouched 1 openShop
      (((GatewayRequest.ticket (.updateTicketStatus 3 .closed)).handler shopGateway none).run
        openShop).2 :=
  (writes_isolated_iff shopGateway 1 none (.ticket (.updateTicketStatus 3 .closed)) openShop
    openShop_stored (stranger_outside 1 openShop)).mpr fun ⟨_, valid, _⟩ => nomatch valid

/-- A stranger can turn the AI of the ticket off. -/
theorem stranger_toggles :
    Stored openShop ∧ Outsider 1 none openShop ∧
      ¬Untouched 1 openShop
        (((GatewayRequest.toggleAI 3 (some false)).handler shopGateway none).run openShop).2 := by
  refine ⟨openShop_stored, stranger_outside 1 openShop, fun untouched => ?_⟩
  have kept := (untouched.tickets printerTicket rfl).mpr (List.mem_singleton.mpr rfl)
  revert kept
  decide +kernel

end HelpForge.Http
