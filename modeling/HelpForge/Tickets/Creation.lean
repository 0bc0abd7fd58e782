import HelpForge.Tickets.Calls

set_option autoImplicit false

namespace HelpForge.Tickets

open Lib
open Program (raising_none run_attempt run_bind)

structure MembershipFaults where
  cacheRead : Option ServiceError := none
  read : Option ServiceError := none
  cacheWrite : Option ServiceError := none

structure AssignmentFaults where
  agents : Option ServiceError := none
  workloads : Option ServiceError := none
  assign : Option ServiceError := none

structure CreationFaults where
  member : MembershipFaults := {}
  assignee : MembershipFaults := {}
  create : Option ServiceError := none
  assignment : AssignmentFaults := {}

namespace Faulty

variable (locale : Locale)

def getTicketOrganizationMembership (faults : MembershipFaults) (organizationId userId : Nat) :
    Call (Option OrganizationMembership) := do
  let cachedMembership ←
    (Org.getCachedOrganizationMembership organizationId userId).absorbing faults.cacheRead none
  match cachedMembership with
  | some cachedMembership => pure (some cachedMembership)
  | none =>
    let membership ← (Program.reads fun world : World =>
      (world.db.findMembership organizationId userId).bind world.db.withRole).raising faults.read
    match membership with
    | some membership =>
      (Org.setCachedOrganizationMembership membership).absorbing faults.cacheWrite ()
      pure (some membership)
    | none => pure none

def memberOf (faults : MembershipFaults) (organizationId userId : Nat) (message : String) :
    Call OrganizationMembership := do
  let membership ← getTicketOrganizationMembership faults organizationId userId
  Program.orFail membership (forbidden message)

def validateTicketAssignee (faults : MembershipFaults) (organizationId : Nat)
    (assignedToId : Option Nat) : Call Unit :=
  match assignedToId with
  | none => pure ()
  | some assignedToId => do
    let assignedMembership ← getTicketOrganizationMembership faults organizationId assignedToId
    Program.require assignedMembership.isSome
      (.api 400 "Assigned user must be a member of the organization" "ASSIGNEE_NOT_MEMBER")

def findBestAutoAssignAgent (faults : AssignmentFaults) (organizationId : Nat) :
    Call (Option Nat) := do
  let agents ← (getOrganizationAvailableAgents organizationId).raising faults.agents
  let workloads ← (getOrganizationAgentWorkloads organizationId).raising faults.workloads
  let now ← Program.reads World.now
  return (eligibleAgents locale agents workloads now).head?.map fun agent => agent.userId

def autoAssignTicketForOrganization (faults : AssignmentFaults) (ticket : Ticket) :
    Call HydratedTicket := do
  let autoAssignedUserId ← findBestAutoAssignAgent locale faults ticket.organizationId
  let autoAssignedUserId ← Program.orFail autoAssignedUserId noAgentAvailable
  (autoAssignTicket locale.showId ticket.id ticket.organizationId autoAssignedUserId).raising
    faults.assign

def createTicketService (faults : CreationFaults) (ticketData : TicketData) (userId : Nat) :
    Call CreatedTicket := do
  let _ ← memberOf faults.member ticketData.organizationId userId
    "You do not have permission to create tickets for this organization"
  validateTicketAssignee faults.assignee ticketData.organizationId ticketData.assignedToId
  let ticket ← (createTicket ticketData userId).raising faults.create
  emitTicketEvent
    { name := .created
      ticketId := ticket.id
      organizationId := ticket.organizationId
      actorId := userId
      metadata := { title := some ticket.title } }
  if ticket.assignedToId.isSome then return .listed ticket
  else
    Program.recover
      (do
        let assigned ←
          autoAssignTicketForOrganization locale faults.assignment ticket.toTicket
        return .assigned assigned)
      fun error =>
        if error.code = some "NO_AGENT_AVAILABLE" then pure (.listed ticket)
        else Program.fail error

theorem createTicketService_none (ticketData : TicketData) (userId : Nat) :
    createTicketService locale {} ticketData userId =
      Tickets.createTicketService locale ticketData userId := rfl

/-- Neither a ticket nor an event, nor anything else in the database. -/
structure Untouched (world reached : World) : Prop where
  db : reached.db = world.db
  events : reached.events = world.events
  now : reached.now = world.now

theorem Untouched.refl (world : World) : Untouched world world := ⟨rfl, rfl, rfl⟩

theorem Untouched.trans {world middle reached : World} (one : Untouched world middle)
    (other : Untouched middle reached) : Untouched world reached :=
  ⟨other.db.trans one.db, other.events.trans one.events, other.now.trans one.now⟩

def recognized (faults : MembershipFaults) (world : World) (organizationId userId : Nat) : Bool :=
  -- The user is found to be a member: in the cache, or in the database.
  (faults.cacheRead.isNone && (world.membershipCache organizationId userId).isSome) ||
    (faults.read.isNone &&
      ((world.db.findMembership organizationId userId).bind world.db.withRole).isSome)

section Nat

variable (faults : MembershipFaults) (organizationId userId : Nat)

theorem run_lookup (world : World) :
    ∃ result reached,
      (getTicketOrganizationMembership faults organizationId userId).run world =
        (result, reached) ∧ Untouched world reached ∧
      ((∃ membership, result = .ok (some membership)) ↔
        recognized faults world organizationId userId = true) := by
  unfold getTicketOrganizationMembership Org.getCachedOrganizationMembership recognized
  rw [run_bind, Program.run_absorbing_reads]
  cases hit : (if faults.cacheRead.isSome then none
      else world.membershipCache organizationId userId) with
  | some copy =>
    refine ⟨_, _, rfl, Untouched.refl world, ?_⟩
    cases up : faults.cacheRead with
    | none =>
      rw [up] at hit
      have cached : world.membershipCache organizationId userId = some copy := hit
      simp [cached]
    | some failure => simp [up] at hit
  | none =>
    have missed : (faults.cacheRead.isNone &&
        (world.membershipCache organizationId userId).isSome) = false := by
      cases up : faults.cacheRead with
      | none =>
        rw [up] at hit
        have absent : world.membershipCache organizationId userId = none := hit
        simp [absent]
      | some failure => rfl
    rw [missed, Bool.false_or]
    dsimp only
    rw [run_bind]
    cases faults.read with
    | some failure => exact ⟨_, _, rfl, Untouched.refl world, by simp⟩
    | none =>
      -- The database decides, and what it has is cached where the cache takes it.
      rw [raising_none, Program.run_reads]
      cases (world.db.findMembership organizationId userId).bind world.db.withRole with
      | none => exact ⟨_, _, rfl, Untouched.refl world, by simp⟩
      | some membership =>
        dsimp only
        rw [Org.setCachedOrganizationMembership, run_bind, Program.run_absorbing_modify]
        refine ⟨_, _, rfl, ?_, by simp⟩
        split_ifs
        · exact Untouched.refl world
        · exact ⟨rfl, rfl, rfl⟩

theorem run_memberOf (message : String) (world : World) :
    ∃ result reached, (memberOf faults organizationId userId message).run world =
        (result, reached) ∧ Untouched world reached ∧
      ((∃ membership, result = .ok membership) ↔
        recognized faults world organizationId userId = true) := by
  obtain ⟨result, reached, ran, untouched, known⟩ :=
    run_lookup faults organizationId userId world
  unfold memberOf
  rw [run_bind, ran]
  rcases result with failure | (- | membership)
  · exact ⟨_, _, rfl, untouched, by rw [← known]; simp⟩
  · exact ⟨_, _, rfl, untouched, by rw [← known]; simp⟩
  · exact ⟨_, _, rfl, untouched, by rw [← known]; simp⟩

end Nat

theorem run_validateTicketAssignee (faults : MembershipFaults) (organizationId : Nat)
    (assignedToId : Option Nat) (world : World) :
    ∃ result reached, (validateTicketAssignee faults organizationId assignedToId).run world =
        (result, reached) ∧ Untouched world reached ∧ (assignedToId = none → result = .ok ()) := by
  cases assignedToId with
  | none => exact ⟨_, _, rfl, Untouched.refl world, fun _ => rfl⟩
  | some assignedToId =>
    obtain ⟨result, reached, ran, untouched, -⟩ :=
      run_lookup faults organizationId assignedToId world
    unfold validateTicketAssignee
    rw [run_bind, ran]
    rcases result with failure | membership
    · exact ⟨_, _, rfl, untouched, by simp⟩
    · dsimp only
      rw [Program.run_require]
      exact ⟨_, _, rfl, untouched, by simp⟩

/-- The users of memberships exist, and the next identifier is free. -/
structure Referential (db : Database) : Prop where
  members : ∀ membership ∈ db.memberships, (db.findUser membership.userId).isSome = true
  fresh : ∀ ticket ∈ db.tickets, ticket.id ≠ db.nextId

theorem countAssignment_total (organizationId agentUserId : Nat) (world : World)
    (agent : (world.db.findUser agentUserId).isSome = true)
    (organization : (world.db.findOrganization organizationId).isSome = true) :
    (countAssignment organizationId agentUserId).run world =
      (.ok (), world.withDb (counted world.now organizationId agentUserId)) := by
  unfold countAssignment counted
  rw [run_attempt]
  by_cases there : world.db.agentWorkloads.any (isWorkloadOf organizationId agentUserId) = true
  · simp [there, World.withDb]
  · simp [there, agent, organization, World.withDb]

theorem createTicketActivityLog_total (ticketId actorId : Nat) (action : TicketActivityAction)
    (oldValue newValue : Option String) (world : World)
    (there : (world.db.findTicket ticketId).isSome = true)
    (actor : (world.db.findUser actorId).isSome = true) :
    ∃ logged, (createTicketActivityLog ticketId actorId action oldValue newValue).run world =
      (.ok logged, world.withDb (logActivity logged)) := by
  unfold createTicketActivityLog
  rw [run_attempt, there, actor]
  exact ⟨_, rfl⟩

theorem writeTicket_total (ticketId : Nat) (change : Ticket → Ticket) (ticket : Ticket)
    (world : World) (found : world.db.findTicket ticketId = some ticket)
    (resolves : keysResolve world.db { change ticket with updatedAt := world.now } = true) :
    ∃ written reached, (writeTicket ticketId change none).run world = (.ok written, reached) := by
  unfold writeTicket
  rw [run_attempt]
  simp only [found, resolves, Option.all_none, Bool.and_true, if_true]
  exact ⟨_, _, rfl⟩

theorem autoAssignTicket_total (showId : Nat → String) (agentUserId : Nat) (ticket : Ticket)
    (world : World) (found : world.db.findTicket ticket.id = some ticket)
    (agent : (world.db.findUser agentUserId).isSome = true)
    (resolves : keysResolve world.db ticket = true) :
    ∃ assigned reached,
      (autoAssignTicket showId ticket.id ticket.organizationId agentUserId).run world =
        (.ok assigned, reached) := by
  -- The transaction succeeds, as all that it refers to exists.
  simp only [keysResolve, Bool.and_eq_true] at resolves
  obtain ⟨⟨organization, creator⟩, -⟩ := resolves
  let counting := world.withDb (counted world.now ticket.organizationId agentUserId)
  obtain ⟨-, tickets, users, organizations, -⟩ :=
    counted_rows world.now ticket.organizationId agentUserId world.db
  have still : counting.db.findTicket ticket.id = some ticket := by
    change Database.findTicket (counted ..) _ = _
    rw [Database.findTicket, tickets]
    exact found
  have user (id : Nat) : counting.db.findUser id = world.db.findUser id := by
    change Database.findUser (counted ..) _ = _
    rw [Database.findUser, users]
    rfl
  have place (id : Nat) : counting.db.findOrganization id = world.db.findOrganization id := by
    change Database.findOrganization (counted ..) _ = _
    rw [Database.findOrganization, organizations]
    rfl
  obtain ⟨logged, logs⟩ := createTicketActivityLog_total ticket.id agentUserId .ticketAssigned none
    (some (showId agentUserId)) counting (by rw [still]; rfl) (by rw [user]; exact agent)
  -- The entry in the log leaves the tables that the keys of the ticket refer to.
  obtain ⟨assigned, reached, writes⟩ := writeTicket_total ticket.id
    (fun ticket => { ticket with assignedToId := some agentUserId, status := .inProgress }) ticket
    (counting.withDb (logActivity logged)) still (by
      change ((counting.db.findOrganization _).isSome && (counting.db.findUser _).isSome &&
        (counting.db.findUser _).isSome) = true
      rw [place, user, user, organization, creator, agent]
      rfl)
  refine ⟨assigned, reached, ?_⟩
  unfold autoAssignTicket
  rw [Program.run_transaction, run_bind,
    countAssignment_total ticket.organizationId agentUserId world agent organization]
  dsimp only
  rw [run_bind, logs]
  dsimp only
  rw [writes]

def candidates (world : World) (organizationId : Nat) : List OrganizationMembership :=
  -- The agents that a ticket of the organisation could be given to, the best choice first.
  eligibleAgents locale
    ((byCreatedAt (·.createdAt) (world.db.memberships.filter fun membership =>
      membership.organizationId == organizationId && membership.isAvailable &&
        (world.db.findOrgRole membership.roleId).any (·.name == "AGENT"))).filterMap
      world.db.withRole)
    (world.db.agentWorkloads.filter fun workload => workload.organizationId == organizationId)
    world.now

def struck (faults : AssignmentFaults) (world : World) (organizationId : Nat) :
    Option ServiceError :=
  -- The step of the assignment that fails; without a candidate no transaction is begun.
  faults.agents.or (faults.workloads.or
    (if (candidates locale world organizationId).isEmpty then none else faults.assign))

theorem candidate_user (world : World) (organizationId : Nat) (agent : OrganizationMembership)
    (candidate : agent ∈ candidates locale world organizationId)
    (intact : Referential world.db) : (world.db.findUser agent.userId).isSome = true := by
  unfold candidates eligibleAgents at candidate
  rw [List.mem_insertionSort, List.mem_filter, List.mem_filterMap] at candidate
  obtain ⟨⟨membership, listed, joined⟩, -⟩ := candidate
  rw [byCreatedAt, List.mem_insertionSort, List.mem_filter] at listed
  have same : agent.userId = membership.userId := by
    obtain ⟨role, -, rfl⟩ := Option.map_eq_some_iff.mp joined
    rfl
  rw [same]
  exact intact.members membership listed.1

theorem run_findBestAutoAssignAgent (faults : AssignmentFaults) (organizationId : Nat)
    (world : World) :
    (findBestAutoAssignAgent locale faults organizationId).run world =
      (match faults.agents.or faults.workloads with
        | some failure => .error failure
        | none => .ok ((candidates locale world organizationId).head?.map (·.userId)), world) := by
  obtain ⟨agents, workloads, assign⟩ := faults
  cases agents with
  | some failure => rfl
  | none =>
    cases workloads with
    | some failure => rfl
    | none => rfl

section World

variable (faults : AssignmentFaults) (ticket : Ticket) (world : World)

theorem run_autoAssign_struck (failure : ServiceError)
    (fails : struck locale faults world ticket.organizationId = some failure) :
    (autoAssignTicketForOrganization locale faults ticket).run world =
      (.error failure, world) := by
  unfold struck at fails
  rw [← Option.or_assoc] at fails
  unfold autoAssignTicketForOrganization
  rw [run_bind, run_findBestAutoAssignAgent]
  cases early : faults.agents.or faults.workloads with
  | some other =>
    rw [early, Option.some_or, Option.some_inj] at fails
    rw [fails]
  | none =>
    rw [early, Option.none_or] at fails
    cases choice : candidates locale world ticket.organizationId with
    | nil => simp [choice] at fails
    | cons agent others =>
      have cut : faults.assign = some failure := by simpa [choice] using fails
      simp [Program.orFail, cut]

theorem run_autoAssign_spared (spared : struck locale faults world ticket.organizationId = none)
    (found : world.db.findTicket ticket.id = some ticket)
    (resolves : keysResolve world.db ticket = true)
    (members : ∀ agent ∈
      candidates locale world ticket.organizationId,
        (world.db.findUser agent.userId).isSome = true) :
    (autoAssignTicketForOrganization locale faults ticket).run world =
        (.error noAgentAvailable, world) ∨
      ∃ assigned reached, (autoAssignTicketForOrganization locale faults ticket).run world =
        (.ok assigned, reached) := by
  unfold struck at spared
  rw [← Option.or_assoc, Option.or_eq_none_iff] at spared
  obtain ⟨early, late⟩ := spared
  unfold autoAssignTicketForOrganization
  rw [run_bind, run_findBestAutoAssignAgent, early]
  cases choice : candidates locale world ticket.organizationId with
  -- Without a candidate no transaction is begun, and the error is the one that is caught.
  | nil => exact .inl rfl
  | cons agent others =>
    have whole : faults.assign = none := by simpa [choice] using late
    obtain ⟨assigned, reached, ran⟩ := autoAssignTicket_total locale.showId agent.userId ticket
      world found (members agent (by rw [choice]; exact List.mem_cons_self)) resolves
    right
    refine ⟨assigned, reached, ?_⟩
    simp only [List.head?_cons, Option.map_some, Program.orFail, Program.pure_bind, whole,
      raising_none, ran]

end World

def announced (ticketData : TicketData) (userId : Nat) (world : World) : World :=
  -- The world with the new ticket and its event.
  let ticket := newTicket world ticketData userId
  { world.withDb (insertTicket ticket) with
    events := world.events ++
      [{ name := .created
         ticketId := ticket.id
         organizationId := ticket.organizationId
         actorId := userId
         metadata := { title := some ticket.title } }] }

theorem candidates_announced (ticketData : TicketData) (userId : Nat) (world : World)
    (organizationId : Nat) :
    candidates locale (announced ticketData userId world) organizationId =
      candidates locale world organizationId := rfl

theorem struck_announced (faults : AssignmentFaults) (ticketData : TicketData) (userId : Nat)
    (world : World) :
    struck locale faults (announced ticketData userId world)
        (newTicket world ticketData userId).organizationId =
      struck locale faults world ticketData.organizationId := by
  rw [struck, candidates_announced]
  rfl

theorem findTicket_announced (ticketData : TicketData) (userId : Nat) (world : World)
    (intact : Referential world.db) :
    (announced ticketData userId world).db.findTicket world.db.nextId =
      some (newTicket world ticketData userId) := by
  have absent : world.db.tickets.find? (fun ticket => ticket.id == world.db.nextId) = none :=
    List.find?_eq_none.mpr fun ticket stored => by simpa using intact.fresh ticket stored
  change (world.db.tickets ++ [_]).find? _ = _
  rw [List.find?_append, absent, Option.none_or]
  simp [newTicket]

def assigning (faults : AssignmentFaults) (ticket : ListedTicket) : Call CreatedTicket :=
  -- The last part of the service, once the ticket has been announced.
  if ticket.assignedToId.isSome then return .listed ticket
  else
    Program.recover
      (do
        let assigned ← autoAssignTicketForOrganization locale faults ticket.toTicket
        return .assigned assigned)
      fun error =>
        if error.code = some "NO_AGENT_AVAILABLE" then pure (.listed ticket)
        else Program.fail error

def creating (faults : CreationFaults) (ticketData : TicketData) (userId : Nat) :
    Call CreatedTicket := do
  let ticket ← (createTicket ticketData userId).raising faults.create
  emitTicketEvent
    { name := .created
      ticketId := ticket.id
      organizationId := ticket.organizationId
      actorId := userId
      metadata := { title := some ticket.title } }
  assigning locale faults.assignment ticket

theorem createTicketService_eq (faults : CreationFaults) (ticketData : TicketData)
    (userId : Nat) :
    createTicketService locale faults ticketData userId = (do
      let _ ← memberOf faults.member ticketData.organizationId userId
        "You do not have permission to create tickets for this organization"
      validateTicketAssignee faults.assignee ticketData.organizationId ticketData.assignedToId
      creating locale faults ticketData userId) := rfl

section World

variable (faults : AssignmentFaults) (ticket : ListedTicket) (world : World)

theorem run_assigning_given (given : ticket.assignedToId.isSome = true) :
    (assigning locale faults ticket).run world = (.ok (.listed ticket), world) := by
  rw [assigning, if_pos given]
  rfl

theorem run_assigning (unassigned : ticket.assignedToId = none) :
    (assigning locale faults ticket).run world =
      match (autoAssignTicketForOrganization locale faults ticket.toTicket).run world with
      | (.ok assigned, reached) => (.ok (.assigned assigned), reached)
      | (.error error, reached) =>
        (if error.code = some "NO_AGENT_AVAILABLE" then .ok (.listed ticket) else .error error,
          reached) := by
  rw [assigning, if_neg (by simp [unassigned]), Program.run_recover, run_bind]
  rcases (autoAssignTicketForOrganization locale faults ticket.toTicket).run world with
    ⟨failure | assigned, reached⟩
  · dsimp only
    split_ifs
    · rfl
    · rfl
  · rfl

end World

section creating

variable (faults : CreationFaults) (ticketData : TicketData) (userId : Nat) (world : World)

theorem run_creating_barred
    (barred : ¬(faults.create = none ∧
      keysResolve world.db (newTicket world ticketData userId) = true)) :
    ∃ failure, (creating locale faults ticketData userId).run world = (.error failure, world) := by
  unfold creating
  rw [run_bind]
  cases up : faults.create with
  | some failure => exact ⟨_, rfl⟩
  | none =>
    have dangling : keysResolve world.db (newTicket world ticketData userId) = false :=
      Bool.eq_false_iff.mpr fun resolves => barred ⟨up, resolves⟩
    rw [raising_none, createTicket, run_attempt]
    simp only [dangling, Bool.false_eq_true, if_false]
    exact ⟨_, rfl⟩

theorem run_creating (up : faults.create = none)
    (resolves : keysResolve world.db (newTicket world ticketData userId) = true) :
    ∃ ticket : ListedTicket, ticket.toTicket = newTicket world ticketData userId ∧
      (creating locale faults ticketData userId).run world =
        (assigning locale faults.assignment ticket).run (announced ticketData userId world) := by
  refine ⟨listed (insertTicket (newTicket world ticketData userId) world.db)
    (newTicket world ticketData userId), rfl, ?_⟩
  unfold creating
  rw [run_bind, up, raising_none, createTicket, run_attempt]
  simp only [resolves, if_true]
  rfl

def Clean (world reached : World) : Prop :=
  -- Neither tickets nor events differ.
  reached.db.tickets = world.db.tickets ∧ reached.events = world.events

theorem not_clean_announced : ¬Clean world (announced ticketData userId world) := by
  intro clean
  have longer := congrArg List.length clean.1
  simp [announced, World.withDb, insertTicket] at longer

/-- The ticket is created for nobody in particular, and a step of the assignment fails. -/
structure CutShort : Prop where
  unassigned : ticketData.assignedToId = none
  creates : faults.create = none
  resolves : keysResolve world.db (newTicket world ticketData userId) = true
  fails : ∃ failure ∈ struck locale faults.assignment world ticketData.organizationId,
    failure.code ≠ some "NO_AGENT_AVAILABLE"

theorem creating_clean (intact : Referential world.db)
    (whole : ¬CutShort locale faults ticketData userId world) (failure : ServiceError)
    (reached : World)
    (ran : (creating locale faults ticketData userId).run world = (.error failure, reached)) :
    Clean world reached := by
  by_cases born : faults.create = none ∧
      keysResolve world.db (newTicket world ticketData userId) = true
  -- Once the ticket is there, only the assignment is left to fail.
  · obtain ⟨ticket, same, after⟩ :=
      run_creating locale faults ticketData userId world born.1 born.2
    rw [after] at ran
    cases given : ticketData.assignedToId with
    | some assignedToId =>
      have kept : ticket.assignedToId.isSome = true := by
        rw [same]
        simp [newTicket, given]
      rw [run_assigning_given locale _ ticket _ kept] at ran
      cases ran
    | none =>
      have unassigned : ticket.assignedToId = none := by
        rw [same]
        exact given
      rw [run_assigning locale _ ticket _ unassigned, same] at ran
      have equal := struck_announced locale faults.assignment ticketData userId world
      cases fails : struck locale faults.assignment world ticketData.organizationId with
      | some other =>
        by_cases code : other.code = some "NO_AGENT_AVAILABLE"
        · rw [run_autoAssign_struck locale faults.assignment _ _ other (equal.trans fails)] at ran
          simp only [code, if_true] at ran
          cases ran
        · exact absurd ⟨given, born.1, born.2, other, fails, code⟩ whole
      | none =>
        -- What remains ends with an assignment, or for want of an agent; neither rejects.
        obtain wanting | ⟨assigned, after, ran'⟩ := run_autoAssign_spared locale faults.assignment
          (newTicket world ticketData userId) (announced ticketData userId world)
          (equal.trans fails) (findTicket_announced ticketData userId world intact) born.2
          (fun agent candidate => by
            rw [candidates_announced] at candidate
            exact candidate_user locale world _ agent candidate intact)
        · rw [wanting] at ran
          cases ran
        · rw [ran'] at ran
          cases ran
  · obtain ⟨other, ran'⟩ :=
      run_creating_barred locale faults ticketData userId world born
    rw [ran'] at ran
    cases ran
    exact ⟨rfl, rfl⟩

theorem creating_cut (cut : CutShort locale faults ticketData userId world) :
    ∃ failure, (creating locale faults ticketData userId).run world =
      (.error failure, announced ticketData userId world) := by
  obtain ⟨failure, fails, code⟩ := cut.fails
  obtain ⟨ticket, same, after⟩ :=
    run_creating locale faults ticketData userId world cut.creates cut.resolves
  have unassigned : ticket.assignedToId = none := by
    rw [same]
    exact cut.unassigned
  refine ⟨failure, ?_⟩
  rw [after, run_assigning locale _ ticket _ unassigned, same,
    run_autoAssign_struck locale faults.assignment _ _ failure
      ((struck_announced locale faults.assignment ticketData userId world).trans fails)]
  simp only [code, if_false]

end creating

section Service

variable (faults : CreationFaults) (world : World) (ticketData : TicketData) (userId : Nat)

theorem cutShort_untouched {reached : World} (untouched : Untouched world reached) :
    CutShort locale faults ticketData userId reached ↔
      CutShort locale faults ticketData userId world := by
  have same : newTicket reached ticketData userId = newTicket world ticketData userId := by
    simp only [newTicket, untouched.db, untouched.now]
  have equal : candidates locale reached ticketData.organizationId =
      candidates locale world ticketData.organizationId := by
    simp only [candidates, untouched.db, untouched.now]
  constructor
  · rintro ⟨unassigned, creates, resolves, fails⟩
    rw [same, untouched.db] at resolves
    rw [struck, equal] at fails
    exact ⟨unassigned, creates, resolves, fails⟩
  · rintro ⟨unassigned, creates, resolves, fails⟩
    rw [← same, ← untouched.db] at resolves
    rw [struck, ← equal] at fails
    exact ⟨unassigned, creates, resolves, fails⟩

end Service

end Faulty

/-- Calls that reject leave neither a ticket nor an event, unless a member's ticket for nobody in
particular has been created and a step of its assignment fails. -/
theorem creation_atomic_iff (locale : Locale) (faults : CreationFaults) (world : World)
    (ticketData : TicketData) (userId : Nat) (intact : Faulty.Referential world.db) :
    (∀ failure reached,
      (Faulty.createTicketService locale faults ticketData userId).run world =
        (.error failure, reached) →
      reached.db.tickets = world.db.tickets ∧ reached.events = world.events) ↔
    ¬(Faulty.recognized faults.member world ticketData.organizationId userId = true ∧
      Faulty.CutShort locale faults ticketData userId world) := by
  rw [Faulty.createTicketService_eq]
  obtain ⟨member, looked, ran, untouched, known⟩ := Faulty.run_memberOf faults.member
    ticketData.organizationId userId
    "You do not have permission to create tickets for this organization" world
  obtain ⟨valid, checked, ran', untouched', nobody⟩ := Faulty.run_validateTicketAssignee
    faults.assignee ticketData.organizationId ticketData.assignedToId looked
  have before := untouched.trans untouched'
  -- What has only been looked up is as it was.
  have unchanged {failure : ServiceError} {last : World} (same : Faulty.Untouched world last) :
      ∀ other reached,
        (Except.error failure, last) = ((Except.error other : Except _ CreatedTicket), reached) →
          reached.db.tickets = world.db.tickets ∧ reached.events = world.events := by
    intro other reached ends
    cases ends
    exact ⟨congrArg Database.tickets same.db, same.events⟩
  rw [run_bind, ran]
  cases member with
  | error refusal =>
    have stranger : ¬Faulty.recognized faults.member world ticketData.organizationId userId =
        true := fun recognized => by
      obtain ⟨membership, found⟩ := known.mpr recognized
      cases found
    exact ⟨fun _ both => stranger both.1, fun _ => unchanged untouched⟩
  | ok membership =>
    have recognized := known.mp ⟨membership, rfl⟩
    dsimp only
    rw [run_bind, ran']
    cases valid with
    | error refusal =>
      have given : ticketData.assignedToId ≠ none := fun none => nomatch nobody none
      exact ⟨fun _ both => given both.2.unassigned, fun _ => unchanged before⟩
    | ok _ =>
      dsimp only
      have cuts := Faulty.cutShort_untouched locale faults world ticketData userId before
      constructor
      · intro clean both
        obtain ⟨failure, after⟩ := Faulty.creating_cut locale faults ticketData userId checked
          (cuts.mpr both.2)
        refine Faulty.not_clean_announced ticketData userId checked ?_
        have kept := clean failure _ after
        rw [← before.db, ← before.events] at kept
        exact kept
      · intro whole failure reached fails
        have intact' : Faulty.Referential checked.db := by
          rw [before.db]
          exact intact
        have clean := Faulty.creating_clean locale faults ticketData userId checked intact'
          (fun cut => whole ⟨recognized, cuts.mp cut⟩) failure reached fails
        rw [Faulty.Clean, before.db, before.events] at clean
        exact clean

def reception : World where
  db :=
    { users := [{ id := 1, email := "owner@a.example", password := "" },
        { id := 2, email := "agent@a.example", password := "" }]
      organizations := [{ id := 3, name := "A" }]
      orgRoles :=
        [{ id := 4, name := "OWNER", organizationId := 3, permissions := [], level := 100 },
          { id := 5, name := "AGENT", organizationId := 3, permissions := [], level := 50 }]
      memberships := [{ id := 6, userId := 1, organizationId := 3, roleId := 4 },
        { id := 7, userId := 2, organizationId := 3, roleId := 5 }]
      nextId := 8 }

def printerReport : TicketData := { organizationId := 3, title := "Printer" }

def oneDay : Locale := { startOfDay := fun _ => 0, startOfWeek := fun _ => 0 }

theorem reception_referential : Faulty.Referential reception.db where
  members := by decide +kernel
  fresh _ stored := by cases stored

/-- What fails with the creation itself leaves nothing. -/
theorem reception_refused :
    Faulty.Referential reception.db ∧
      ∀ failure reached,
        (Faulty.createTicketService oneDay { create := some .foreignKeyConstraint } printerReport
          1).run reception = (.error failure, reached) →
        reached.db.tickets = reception.db.tickets ∧ reached.events = reception.events :=
  ⟨reception_referential,
    (creation_atomic_iff oneDay { create := some .foreignKeyConstraint } reception printerReport 1
      reception_referential).mpr fun both => nomatch both.2.creates⟩

def lostTransaction : CreationFaults where
  assignment := { assign := some (.unavailable "ticket.update") }

/-- The transaction of the assignment fails, and the call with it; the ticket is there. -/
theorem rejected_ticket_stays :
    ∃ reached, (Faulty.createTicketService oneDay lostTransaction printerReport 1).run reception =
        (.error (.unavailable "ticket.update"), reached) ∧
      reached.db.tickets ≠ reception.db.tickets ∧
      reached.events.map (·.name) = [.created] :=
  ⟨_, Prod.ext (by decide +kernel) rfl, by decide +kernel, by decide +kernel⟩

end HelpForge.Tickets
