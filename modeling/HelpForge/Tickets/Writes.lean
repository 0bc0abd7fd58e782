import HelpForge.Tickets.Repo

set_option autoImplicit false

namespace HelpForge.Tickets

open Lib

variable {world reached : World}

theorem createTicket_ok (data : TicketData) (createdById : Nat) (created : ListedTicket)
    (done : (createTicket data createdById).run world = (.ok created, reached)) :
    let ticket := newTicket world data createdById
    keysResolve world.db ticket = true ∧ reached = world.withDb (insertTicket ticket) ∧
      created = listed reached.db ticket := by
  intro ticket
  have written := (Program.attempt_ok ..).mp done
  simp only at written
  split_ifs at written with resolves
  · cases written
    exact ⟨resolves, rfl, rfl⟩

theorem writeTicket_ok (ticketId : Nat) (change : Ticket → Ticket)
    (activity : Option (Nat × TicketActivityAction)) (written : HydratedTicket)
    (done : (writeTicket ticketId change activity).run world = (.ok written, reached)) :
    ∃ ticket, world.db.findTicket ticketId = some ticket ∧
      keysResolve world.db { change ticket with updatedAt := world.now } = true ∧
      reached = world.withDb (fun db => logOwn world.now ticketId activity
        (storeTicket ticketId { change ticket with updatedAt := world.now } db)) ∧
      written = hydrated reached.db { change ticket with updatedAt := world.now } := by
  have stored := (Program.attempt_ok ..).mp done
  cases found : world.db.findTicket ticketId with
  | none => simp [found] at stored
  | some ticket =>
    simp only [found] at stored
    split_ifs at stored with resolves
    · cases stored
      exact ⟨ticket, rfl, (Bool.and_eq_true_iff.mp resolves).1, rfl, rfl⟩

@[simp] theorem logOwn_tickets (now ticketId : Nat)
    (activity : Option (Nat × TicketActivityAction)) (db : Database) :
    (logOwn now ticketId activity db).tickets = db.tickets := by
  cases activity <;> rfl

theorem createTicketActivityLog_ok (ticketId actorId : Nat) (action : TicketActivityAction)
    (oldValue newValue : Option String) (logged : TicketActivityLog)
    (done : (createTicketActivityLog ticketId actorId action oldValue newValue).run world =
      (.ok logged, reached)) :
    logged = { id := world.db.nextId, ticketId, actorId, action, oldValue, newValue,
               createdAt := world.now } ∧
      reached = world.withDb (logActivity logged) := by
  have written := (Program.attempt_ok ..).mp done
  simp only at written
  split_ifs at written
  · cases written
    exact ⟨rfl, rfl⟩

def counted (now organizationId agentUserId : Nat) (db : Database) : Database :=
  if db.agentWorkloads.any (isWorkloadOf organizationId agentUserId) then
    countOne organizationId agentUserId db
  else countFirst now organizationId agentUserId db

theorem countAssignment_ok (organizationId agentUserId : Nat)
    (done : (countAssignment organizationId agentUserId).run world = (.ok (), reached)) :
    reached = world.withDb (counted world.now organizationId agentUserId) := by
  have written := (Program.attempt_ok ..).mp done
  unfold counted
  by_cases there : world.db.agentWorkloads.any (isWorkloadOf organizationId agentUserId) = true
  · rw [if_pos there] at written
    cases written
    simp [World.withDb, there]
  · rw [if_neg there] at written
    split_ifs at written
    · cases written
      simp [World.withDb, there]

def assignedActivity (showId : Nat → String) (now id ticketId agentUserId : Nat) :
    TicketActivityLog :=
  { id, ticketId, actorId := agentUserId, action := .ticketAssigned
    newValue := some (showId agentUserId), createdAt := now }

def autoAssigned (showId : Nat → String) (now organizationId agentUserId : Nat) (ticket : Ticket)
    (ticketId : Nat) (db : Database) : Database :=
  storeTicket ticketId
    { ticket with assignedToId := some agentUserId, status := .inProgress, updatedAt := now }
    (logActivity (assignedActivity showId now db.nextId ticketId agentUserId)
      (counted now organizationId agentUserId db))

theorem counted_rows (now organizationId agentUserId : Nat) (db : Database) :
    (counted now organizationId agentUserId db).nextId = db.nextId ∧
      (counted now organizationId agentUserId db).tickets = db.tickets ∧
      (counted now organizationId agentUserId db).users = db.users ∧
      (counted now organizationId agentUserId db).organizations = db.organizations ∧
      (counted now organizationId agentUserId db).memberships = db.memberships ∧
      (counted now organizationId agentUserId db).orgRoles = db.orgRoles ∧
      (counted now organizationId agentUserId db).ticketActivityLogs = db.ticketActivityLogs := by
  unfold counted
  by_cases there : db.agentWorkloads.any (isWorkloadOf organizationId agentUserId) = true
  · simp [there, countOne]
  · simp [there, countFirst]

theorem keysResolve_congr {before after : Database} (users : after.users = before.users)
    (organizations : after.organizations = before.organizations) (ticket : Ticket) :
    keysResolve after ticket = keysResolve before ticket := by
  simp [keysResolve, Database.findUser, Database.findOrganization, users, organizations]

theorem keysResolve_logActivity (activity : TicketActivityLog) (db : Database) (ticket : Ticket) :
    keysResolve (logActivity activity db) ticket = keysResolve db ticket := rfl

variable (showId : Nat → String)

theorem autoAssignTicket_written (ticketId organizationId agentUserId : Nat)
    (assigned : HydratedTicket)
    (done : (autoAssignTicket showId ticketId organizationId agentUserId).run world =
      (.ok assigned, reached)) :
    ∃ ticket, world.db.findTicket ticketId = some ticket ∧
      keysResolve world.db
        { ticket with assignedToId := some agentUserId, status := .inProgress } = true ∧
      reached = world.withDb
        (autoAssigned showId world.now organizationId agentUserId ticket ticketId) ∧
      assigned = hydrated reached.db
        { ticket with
          assignedToId := some agentUserId, status := .inProgress, updatedAt := world.now } := by
  have body := (Program.transaction_ok ..).mp done
  obtain ⟨_, afterCount, count, body⟩ := (Program.bind_ok ..).mp body
  obtain ⟨_, afterLog, log, body⟩ := (Program.bind_ok ..).mp body
  have counts := countAssignment_ok organizationId agentUserId count
  obtain ⟨rfl, logs⟩ := createTicketActivityLog_ok _ _ _ _ _ _ log
  obtain ⟨ticket, found, resolves, rfl, rfl⟩ := writeTicket_ok _ _ _ _ body
  have ⟨next, tickets, users, organizations, _⟩ :=
    counted_rows world.now organizationId agentUserId world.db
  subst logs counts
  refine ⟨ticket, ?_, ?_, ?_, rfl⟩
  · simpa [Database.findTicket, logActivity, tickets] using found
  · simp only [World.withDb_db, keysResolve_logActivity, keysResolve_congr users organizations]
      at resolves
    exact resolves
  · simp [World.withDb, autoAssigned, logOwn, assignedActivity, next]

theorem autoAssignTicket_ok (ticketId organizationId agentUserId : Nat) (assigned : HydratedTicket)
    (done : (autoAssignTicket showId ticketId organizationId agentUserId).run world =
      (.ok assigned, reached)) :
    ∃ ticket, world.db.findTicket ticketId = some ticket ∧
      reached = world.withDb
        (autoAssigned showId world.now organizationId agentUserId ticket ticketId) := by
  obtain ⟨ticket, found, -, reaches, -⟩ := autoAssignTicket_written _ _ _ _ _ done
  exact ⟨ticket, found, reaches⟩

end HelpForge.Tickets
