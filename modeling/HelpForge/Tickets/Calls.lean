import HelpForge.Tickets.Service
import HelpForge.Tickets.Writes

set_option autoImplicit false

namespace HelpForge.Tickets

open Lib
open Program (bind_ok pure_ok run_bind run_reads)
open Org (getTicketOrganizationMembership)

variable (db : Database) (ticketId : Nat)

theorem findTicket_storeTicket (other : Nat) (ticket : Ticket) (same : ticket.id = ticketId) :
    (storeTicket ticketId ticket db).findTicket other =
      (db.findTicket other).map fun row => if row.id == ticketId then ticket else row := by
  change (changeWhere (·.id == ticketId) (fun _ => ticket) db.tickets).find? _ = _
  unfold changeWhere Database.findTicket
  rw [List.find?_map]
  congr 2
  funext row
  by_cases hit : row.id = ticketId
  · simp [hit, same]
  · simp [hit]

theorem findTicket_stored (old ticket : Ticket) (found : db.findTicket ticketId = some old)
    (same : ticket.id = ticketId) :
    (storeTicket ticketId ticket db).findTicket ticketId = some ticket := by
  have hit := List.find?_some found
  rw [findTicket_storeTicket db ticketId ticketId ticket same, found, Option.map_some, if_pos hit]

theorem findTicket_id (ticket : Ticket) (found : db.findTicket ticketId = some ticket) :
    ticket.id = ticketId := by
  simpa using List.find?_some found

def seenMembership (world : World) (organizationId userId : Nat) : Option OrganizationMembership :=
  (world.membershipCache organizationId userId).or
    ((world.db.findMembership organizationId userId).bind world.db.withRole)

def afterLooking (world : World) (organizationId userId : Nat) : World :=
  match world.membershipCache organizationId userId with
  | some _ => world
  | none =>
    match (world.db.findMembership organizationId userId).bind world.db.withRole with
    | some membership => world.putMembership membership
    | none => world

theorem run_getTicketOrganizationMembership (organizationId userId : Nat) (world : World) :
    (getTicketOrganizationMembership organizationId userId).run world =
      (.ok (seenMembership world organizationId userId),
        afterLooking world organizationId userId) := by
  unfold getTicketOrganizationMembership Org.getCachedOrganizationMembership seenMembership
    afterLooking
  rw [run_bind, run_reads]
  cases world.membershipCache organizationId userId with
  | some copy => rfl
  | none =>
    dsimp only
    rw [run_bind, run_reads]
    cases (world.db.findMembership organizationId userId).bind world.db.withRole with
    | some membership => rfl
    | none => rfl

section afterLooking

variable (world : World) (organizationId userId : Nat)

@[simp] theorem afterLooking_db : (afterLooking world organizationId userId).db = world.db := by
  unfold afterLooking
  split
  · rfl
  · split <;> rfl

@[simp] theorem afterLooking_now : (afterLooking world organizationId userId).now = world.now := by
  unfold afterLooking
  split
  · rfl
  · split <;> rfl

@[simp] theorem afterLooking_events :
    (afterLooking world organizationId userId).events = world.events := by
  unfold afterLooking
  split
  · rfl
  · split <;> rfl

end afterLooking

section Services

variable {world reached : World} {locale : Locale} (organizationId : Nat)

theorem memberOf_ok (userId : Nat) (message : String) (membership : OrganizationMembership) :
    (memberOf organizationId userId message).run world = (.ok membership, reached) ↔
      seenMembership world organizationId userId = some membership ∧
        reached = afterLooking world organizationId userId := by
  unfold memberOf
  rw [run_bind, run_getTicketOrganizationMembership]
  cases seenMembership world organizationId userId with
  | none => simp [Program.orFail]
  | some found => simp [Program.orFail, eq_comm]

theorem existingTicket_ok (ticketId : Nat) (found : HydratedTicket) :
    (existingTicket ticketId).run world = (.ok found, reached) ↔
      (∃ ticket, world.db.findTicket ticketId = some ticket ∧ found = hydrated world.db ticket) ∧
        reached = world := by
  unfold existingTicket getTicketById
  rw [run_bind, run_reads]
  cases world.db.findTicket ticketId with
  | none => simp [Program.orFail]
  | some ticket => simp [Program.orFail, eq_comm]

structure Admits (world : World) (ticketId userId : Nat) (allowed : OrgRole → Ticket → Bool)
    (ticket : Ticket) (membership : OrganizationMembership) : Prop where
  found : world.db.findTicket ticketId = some ticket
  seen : seenMembership world ticket.organizationId userId = some membership
  allows : allowed membership.role ticket = true

theorem admitted_ok (ticketId userId : Nat) (message : String)
    (allowed : OrgRole → Ticket → Bool) (found : HydratedTicket)
    (membership : OrganizationMembership)
    (done : (admitted ticketId userId message allowed).run world = (.ok (found, membership), reached)) :
    ∃ ticket, Admits world ticketId userId allowed ticket membership ∧
      found = hydrated world.db ticket ∧
      reached = afterLooking world ticket.organizationId userId := by
  obtain ⟨first, _, existing, rest⟩ := (bind_ok ..).mp done
  obtain ⟨⟨ticket, stored, rfl⟩, rfl⟩ := (existingTicket_ok ..).mp existing
  obtain ⟨seen, _, lookup, rest⟩ := (bind_ok ..).mp rest
  obtain ⟨known, rfl⟩ := (memberOf_ok ..).mp lookup
  obtain ⟨allows, rest⟩ := (Program.require_bind_ok ..).mp rest
  obtain ⟨same, rfl⟩ := (pure_ok ..).mp rest
  obtain ⟨rfl, rfl⟩ := Prod.mk.injEq .. ▸ same
  exact ⟨ticket, ⟨stored, known, allows⟩, rfl, rfl⟩

theorem validateTicketAssignee_ok (assignedToId : Option Nat)
    (done : (validateTicketAssignee organizationId assignedToId).run world = (.ok (), reached)) :
    (∀ userId ∈ assignedToId, (seenMembership world organizationId userId).isSome) ∧
      reached.db = world.db ∧ reached.now = world.now := by
  cases assignedToId with
  | none =>
    obtain ⟨-, rfl⟩ := (pure_ok ..).mp done
    exact ⟨nofun, rfl, rfl⟩
  | some assignedToId =>
    obtain ⟨found, _, lookup, rest⟩ := (bind_ok ..).mp done
    rw [run_getTicketOrganizationMembership] at lookup
    cases lookup
    rw [Program.run_require, Prod.mk.injEq] at rest
    obtain ⟨valid, rfl⟩ := rest
    split_ifs at valid with member
    refine ⟨?_, by simp, by simp⟩
    rintro userId ⟨⟩
    exact member

theorem assertCanUpdateTicket_ok (role : OrgRole) (ticket : Ticket) (userId : Nat)
    (updates : TicketUpdates)
    (done : (assertCanUpdateTicket role ticket userId updates).run world = (.ok (), reached)) :
    (canEditAllOrganizationTickets role = true ∨
      updates.status = none ∧ updates.assignedToId = none) ∧ reached = world := by
  unfold assertCanUpdateTicket at done
  split_ifs at done with edits
  · obtain ⟨-, rfl⟩ := (pure_ok ..).mp done
    exact ⟨.inl edits, rfl⟩
  · obtain ⟨-, rest⟩ := (Program.require_bind_ok ..).mp done
    obtain ⟨plain, rfl⟩ := (Program.require_ok ..).mp rest
    rw [Bool.and_eq_true, Option.isNone_iff_eq_none, Option.isNone_iff_eq_none] at plain
    exact ⟨.inr plain, rfl⟩

end Services

end HelpForge.Tickets
