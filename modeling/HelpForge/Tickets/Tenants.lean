import HelpForge.Tickets.ActivityLog

set_option autoImplicit false

namespace HelpForge.Tickets

open Lib
open Program (bind_ok run_attempt run_bind)

abbrev SameTickets (organizationId : Nat) (before after : Database) : Prop :=
  SameRows (fun ticket : Ticket => ticket.organizationId = organizationId) before.tickets
    after.tickets

structure TicketKeys (db : Database) : Prop where
  unique : (db.tickets.map (·.id)).Nodup
  generated : ∀ ticket ∈ db.tickets, ticket.id < db.nextId

def Rewrites (organizationId : Nat) (db : Database) (now ticketId : Nat)
    (change : Ticket → Ticket) : Prop :=
  -- The ticket is one of the organisation, the write goes through, and it is not what is stored.
  ∃ ticket, db.findTicket ticketId = some ticket ∧ ticket.organizationId = organizationId ∧
    keysResolve db (change ticket) = true ∧ ¬(change ticket = ticket ∧ ticket.updatedAt = now)

def mayUpdate (role : OrgRole) (ticket : Ticket) (userId : Nat) (updates : TicketUpdates) : Bool :=
  canEditAllOrganizationTickets role ||
    (canMemberViewTicket ticket userId && (updates.status.isNone && updates.assignedToId.isNone))

def ValidAssignee (world : World) (organizationId : Nat) (assignedToId : Option Nat) : Prop :=
  -- Whoever is to be assigned is seen to be a member.
  ∀ userId ∈ assignedToId, (seenMembership world organizationId userId).isSome = true

def assigned (userId : Nat) (ticket : Ticket) : Ticket :=
  { ticket with assignedToId := some userId }

def autoAssigning (userId : Nat) (ticket : Ticket) : Ticket :=
  { ticket with assignedToId := some userId, status := .inProgress }

def inStatus (status : TicketStatus) (ticket : Ticket) : Ticket := { ticket with status }

def Writes (locale : Locale) (organizationId : Nat) (world : World) (userId : Nat) :
    TicketCall → Prop
  -- The call is let through, and what it writes is a ticket of the organisation.
  | .createTicket ticketData =>
    ticketData.organizationId = organizationId ∧
      (seenMembership world organizationId userId).isSome = true ∧
      ValidAssignee world organizationId ticketData.assignedToId ∧
      keysResolve world.db (newTicket world ticketData userId) = true
  | .autoAssignTicket ticketId =>
    ∃ ticket membership,
      Admits world ticketId userId (fun role _ => canAssignOrganizationTickets role) ticket
        membership ∧
      ∃ agentUserId, bestAgent locale world ticket.organizationId = some agentUserId ∧
        Rewrites organizationId world.db world.now ticketId (autoAssigning agentUserId)
  | .assignTicket ticketId assignedToId =>
    ∃ ticket membership,
      Admits world ticketId userId (fun role _ => canAssignOrganizationTickets role) ticket
        membership ∧
      ValidAssignee world ticket.organizationId (some assignedToId) ∧
      Rewrites organizationId world.db world.now ticketId (assigned assignedToId)
  | .updateTicket ticketId ticketData =>
    ∃ ticket membership,
      Admits world ticketId userId
        (fun role ticket => mayUpdate role ticket userId ticketData) ticket membership ∧
      ValidAssignee world ticket.organizationId ticketData.assignedToId ∧
      (world.db.findUser userId).isSome = true ∧
      Rewrites organizationId world.db world.now ticketId ticketData.apply
  | .updateTicketStatus ticketId status =>
    ∃ ticket membership,
      Admits world ticketId userId (fun role _ => canEditAllOrganizationTickets role) ticket
        membership ∧
      Rewrites organizationId world.db world.now ticketId (inStatus status)
  | _ => False

variable {reached : World} {β : Type}

section Tenants

variable {locale : Locale} {organizationId userId ticketId : Nat} {world : World} {db : Database}

theorem updated_eq_iff (written stored : Ticket) (now : Nat)
    (kept : written.updatedAt = stored.updatedAt) :
    ({ written with updatedAt := now } : Ticket) = stored ↔
      written = stored ∧ stored.updatedAt = now := by
  constructor
  · intro same
    have updated : now = stored.updatedAt := congrArg Ticket.updatedAt same
    rw [updated, ← kept] at same
    exact ⟨same, updated.symm⟩
  · rintro ⟨rfl, rfl⟩
    rfl

theorem stored_spares_iff (keys : TicketKeys db) (old new : Ticket)
    (found : db.findTicket ticketId = some old) (place : new.organizationId = old.organizationId) :
    SameRows (fun ticket : Ticket => ticket.organizationId = organizationId) db.tickets
        (changeWhere (·.id == ticketId) (fun _ => new) db.tickets) ↔
      (old.organizationId = organizationId → new = old) := by
  have own := findTicket_id _ _ _ found
  have only (row : Ticket) (member : row ∈ db.tickets) (hit : row.id = ticketId) : row = old :=
    List.inj_on_of_nodup_map keys.unique member (List.mem_of_find?_eq_some found)
      (hit.trans own.symm)
  rw [changeWhere, sameRows_map_iff]
  · constructor
    · intro still mine
      have same := still old (List.mem_of_find?_eq_some found) mine
      rwa [if_pos (by simpa using own)] at same
    · intro unchanged row member mine
      split_ifs with hit
      · have which := only row member (by simpa using hit)
        subst which
        exact unchanged mine
      · rfl
  · intro row _
    by_cases hit : row.id = ticketId
    · simp [hit]
    · simp [hit]
  · intro row member
    split_ifs with hit
    · rw [only row member (by simpa using hit), place]
    · rfl

structure Within (change : Ticket → Ticket) : Prop where
  place : ∀ ticket, (change ticket).organizationId = ticket.organizationId
  time : ∀ ticket, (change ticket).updatedAt = ticket.updatedAt

theorem within_assigned (userId : Nat) : Within (assigned userId) := ⟨fun _ => rfl, fun _ => rfl⟩

theorem within_autoAssigning (userId : Nat) : Within (autoAssigning userId) :=
  ⟨fun _ => rfl, fun _ => rfl⟩

theorem within_inStatus (status : TicketStatus) : Within (inStatus status) :=
  ⟨fun _ => rfl, fun _ => rfl⟩

theorem within_apply (updates : TicketUpdates) : Within updates.apply :=
  ⟨fun _ => rfl, fun _ => rfl⟩

theorem rewritten_spares_iff (keys : TicketKeys db) (change : Ticket → Ticket)
    (within : Within change) (now : Nat) (old : Ticket) (found : db.findTicket ticketId = some old)
    (resolves : keysResolve db (change old) = true) :
    SameRows (fun ticket : Ticket => ticket.organizationId = organizationId) db.tickets
        (changeWhere (·.id == ticketId) (fun _ => { change old with updatedAt := now })
          db.tickets) ↔
      ¬Rewrites organizationId db now ticketId change := by
  rw [stored_spares_iff keys old { change old with updatedAt := now } found (within.place old),
    updated_eq_iff _ _ _ (within.time old)]
  constructor
  · rintro unchanged ⟨ticket, there, mine, -, anew⟩
    rw [found, Option.some.injEq] at there
    subst there
    exact anew (unchanged mine)
  · intro spared mine
    by_contra anew
    exact spared ⟨old, found, mine, resolves, anew⟩

theorem writeTicket_spares_iff (tables : reached.db = world.db) (clock : reached.now = world.now)
    (keys : TicketKeys world.db) {change : Ticket → Ticket} (within : Within change)
    (activity : Option (Nat × TicketActivityAction)) :
    SameTickets organizationId world.db ((writeTicket ticketId change activity).run reached).2.db ↔
      ¬((activity.all fun entry => (world.db.findUser entry.1).isSome) = true ∧
        Rewrites organizationId world.db world.now ticketId change) := by
  -- A write in a world with the tables and the clock of an earlier one.
  rw [← tables] at keys ⊢
  rw [← clock]
  rcases ran : (writeTicket ticketId change activity).run reached with ⟨failure | written, left⟩
  · rw [Program.attempt_failed _ _ _ _ ran]
    refine iff_of_true (SameRows.refl _ _) ?_
    rintro ⟨actor, old, found, -, resolves, -⟩
    have resolved : keysResolve reached.db { change old with updatedAt := reached.now } = true :=
      resolves
    rw [writeTicket, run_attempt] at ran
    simp [found, resolved, actor] at ran
  · obtain ⟨old, found, resolves, rfl, -⟩ := writeTicket_ok _ _ _ _ ran
    have actor : (activity.all fun entry => (reached.db.findUser entry.1).isSome) = true := by
      rw [writeTicket, run_attempt] at ran
      by_contra missing
      simp [found, missing] at ran
    rw [and_iff_right actor,
      ← rewritten_spares_iff keys change within reached.now old found resolves]
    simp [SameTickets, storeTicket]

theorem db_discarded {α : Type} {first : Call α} {rest : α → Call β}
    (aside : ∀ value reached, ((rest value).run reached).2.db = reached.db) (world : World) :
    ((first >>= rest).run world).2.db = (first.run world).2.db := by
  -- What follows leaves the tables as they are.
  rw [run_bind]
  rcases first.run world with ⟨failure | value, reached⟩
  · rfl
  · exact aside value reached

variable (message : String) (allowed : OrgRole → Ticket → Bool)

theorem admits_runs (ticket : Ticket) (membership : OrganizationMembership)
    (admits : Admits world ticketId userId allowed ticket membership) :
    (admitted ticketId userId message allowed).run world =
      (.ok (hydrated world.db ticket, membership),
        afterLooking world ticket.organizationId userId) := by
  have loaded : (existingTicket ticketId).run world = (.ok (hydrated world.db ticket), world) :=
    (existingTicket_ok ticketId _).mpr ⟨⟨ticket, admits.found, rfl⟩, rfl⟩
  have recognized : (memberOf (hydrated world.db ticket).organizationId userId message).run world =
      (.ok membership, afterLooking world ticket.organizationId userId) :=
    (memberOf_ok ticket.organizationId userId _ membership).mpr ⟨admits.seen, rfl⟩
  have allows : allowed membership.role (hydrated world.db ticket).toTicket = true := admits.allows
  rw [admitted, run_bind, loaded]
  dsimp only
  rw [run_bind, recognized]
  dsimp only
  rw [allows]
  rfl

variable (rest : HydratedTicket × OrganizationMembership → Call β)

theorem admitted_spares_iff :
    SameTickets organizationId world.db
        ((admitted ticketId userId message allowed >>= rest).run world).2.db ↔
      ∀ ticket membership, Admits world ticketId userId allowed ticket membership →
        SameTickets organizationId world.db
          ((rest (hydrated world.db ticket, membership)).run
            (afterLooking world ticket.organizationId userId)).2.db := by
  rw [run_bind]
  rcases ran : (admitted ticketId userId message allowed).run world with
    ⟨failure | ⟨found, membership⟩, reached⟩
  · have plain := plain_of_run (admitted_plain _ _ _ _) ran
    refine iff_of_true ?_ fun ticket membership admits => ?_
    · dsimp only [SameTickets]
      rw [plain.tickets]
      exact SameRows.refl _ _
    · rw [admits_runs message allowed ticket membership admits] at ran
      cases ran
  · constructor
    · intro same ticket member admits
      rw [admits_runs message allowed ticket member admits] at ran
      cases ran
      exact same
    · intro each
      obtain ⟨ticket, admits, rfl, rfl⟩ := admitted_ok _ _ _ _ _ _ ran
      exact each ticket membership admits

def afterValidating (world : World) (organizationId : Nat) (assignedToId : Option Nat) : World :=
  match assignedToId with
  | none => world
  | some assignedToId => afterLooking world organizationId assignedToId

@[simp] theorem afterValidating_db (world : World) (organizationId : Nat)
    (assignedToId : Option Nat) :
    (afterValidating world organizationId assignedToId).db = world.db := by
  cases assignedToId <;> simp [afterValidating]

@[simp] theorem afterValidating_now (world : World) (organizationId : Nat)
    (assignedToId : Option Nat) :
    (afterValidating world organizationId assignedToId).now = world.now := by
  cases assignedToId <;> simp [afterValidating]

theorem validated_spares_iff (tables : reached.db = world.db) (place : Nat)
    (assignedToId : Option Nat) (rest : Unit → Call β) :
    SameTickets organizationId world.db
        ((validateTicketAssignee place assignedToId >>= rest).run reached).2.db ↔
      (ValidAssignee reached place assignedToId →
        SameTickets organizationId world.db
          ((rest ()).run (afterValidating reached place assignedToId)).2.db) := by
  rw [← tables]
  cases assignedToId with
  | none => simp [ValidAssignee, validateTicketAssignee, afterValidating]
  | some assignedToId =>
    rw [validateTicketAssignee, Program.bind_assoc, run_bind,
      run_getTicketOrganizationMembership]
    dsimp only
    rw [run_bind, Program.run_require]
    cases seen : seenMembership reached place assignedToId with
    | none =>
      refine iff_of_true ?_ fun valid => ?_
      · simp [SameRows.refl]
      · have missing := valid assignedToId rfl
        rw [seen] at missing
        cases missing
    | some membership =>
      have valid : ValidAssignee reached place (some assignedToId) := by
        rintro userId ⟨⟩
        rw [seen]
        rfl
      simp [valid, afterValidating]

theorem asserted_spares_iff (tables : reached.db = world.db) (role : OrgRole) (ticket : Ticket)
    (updates : TicketUpdates) (rest : Unit → Call β) :
    SameTickets organizationId world.db
        ((assertCanUpdateTicket role ticket userId updates >>= rest).run reached).2.db ↔
      (mayUpdate role ticket userId updates = true →
        SameTickets organizationId world.db ((rest ()).run reached).2.db) := by
  rw [← tables]
  unfold assertCanUpdateTicket mayUpdate
  by_cases edits : canEditAllOrganizationTickets role = true
  · simp [edits]
  · by_cases views : canMemberViewTicket ticket userId = true
    · by_cases plain : (updates.status.isNone && updates.assignedToId.isNone) = true
      · simp [edits, views, plain, Program.require]
      · simp [edits, views, plain, Program.require, SameRows.refl]
    · simp [edits, views, Program.require, SameRows.refl]

theorem validAssignee_afterLooking (place memberId other : Nat) (assignedToId : Option Nat) :
    ValidAssignee (afterLooking world place memberId) other assignedToId ↔
      ValidAssignee world other assignedToId := by
  simp [ValidAssignee, seenMembership_afterLooking]

theorem admitting_spares_iff (strikes : Ticket → OrganizationMembership → Prop)
    (each : ∀ ticket membership, Admits world ticketId userId allowed ticket membership →
      (SameTickets organizationId world.db
          ((rest (hydrated world.db ticket, membership)).run
            (afterLooking world ticket.organizationId userId)).2.db ↔
        ¬strikes ticket membership)) :
    SameTickets organizationId world.db
        ((admitted ticketId userId message allowed >>= rest).run world).2.db ↔
      ¬∃ ticket membership, Admits world ticketId userId allowed ticket membership ∧
        strikes ticket membership := by
  -- A service on one ticket, by what it writes once the caller is admitted.
  rw [admitted_spares_iff]
  constructor
  · rintro spares ⟨ticket, membership, admits, struck⟩
    exact (each ticket membership admits).mp (spares ticket membership admits) struck
  · intro spared ticket membership admits
    exact (each ticket membership admits).mpr fun struck =>
      spared ⟨ticket, membership, admits, struck⟩

theorem updateTicketStatusService_spares_iff (locale : Locale) (keys : TicketKeys world.db)
    (status : TicketStatus) :
    SameTickets organizationId world.db
        ((updateTicketStatusService ticketId status userId).run world).2.db ↔
      ¬Writes locale organizationId world userId (.updateTicketStatus ticketId status) := by
  refine admitting_spares_iff _ _ _ _ fun ticket membership admits => ?_
  dsimp only
  rw [db_discarded (fun _ _ => rfl)]
  refine (writeTicket_spares_iff (afterLooking_db ..) (afterLooking_now ..) keys
    (within_inStatus status) none).trans ?_
  simp

theorem assignTicketService_spares_iff (locale : Locale) (keys : TicketKeys world.db)
    (assignedToId : Nat) :
    SameTickets organizationId world.db
        ((assignTicketService ticketId assignedToId userId).run world).2.db ↔
      ¬Writes locale organizationId world userId (.assignTicket ticketId assignedToId) := by
  refine admitting_spares_iff _ _ _ _ fun ticket membership admits => ?_
  refine (validated_spares_iff (afterLooking_db ..) _ _ _).trans ?_
  rw [db_discarded (fun _ _ => rfl), validAssignee_afterLooking, not_and]
  refine imp_congr_right fun _ => ?_
  refine (writeTicket_spares_iff ((afterValidating_db ..).trans (afterLooking_db ..))
    ((afterValidating_now ..).trans (afterLooking_now ..)) keys (within_assigned assignedToId)
    none).trans ?_
  simp

theorem updateTicketService_spares_iff (locale : Locale) (keys : TicketKeys world.db)
    (ticketData : TicketUpdates) :
    SameTickets organizationId world.db
        ((updateTicketService ticketId ticketData userId).run world).2.db ↔
      ¬Writes locale organizationId world userId (.updateTicket ticketId ticketData) := by
  refine (admitting_spares_iff _ _ _ (fun ticket membership =>
    mayUpdate membership.role ticket userId ticketData = true ∧
      ValidAssignee world ticket.organizationId ticketData.assignedToId ∧
      (world.db.findUser userId).isSome = true ∧
      Rewrites organizationId world.db world.now ticketId ticketData.apply)
    fun ticket membership admits => ?_).trans ?_
  · refine (asserted_spares_iff (afterLooking_db ..) _ _ _ _).trans ?_
    rw [not_and]
    refine imp_congr_right fun _ => ?_
    refine (validated_spares_iff (afterLooking_db ..) _ _ _).trans ?_
    rw [db_discarded (fun _ _ => rfl), validAssignee_afterLooking, not_and]
    refine imp_congr_right fun _ => ?_
    refine (writeTicket_spares_iff ((afterValidating_db ..).trans (afterLooking_db ..))
      ((afterValidating_now ..).trans (afterLooking_now ..)) keys (within_apply ticketData)
      (some (userId, .ticketUpdated))).trans ?_
    simp
  · -- The permission to update is one of the conditions of the admission.
    refine not_congr ⟨?_, ?_⟩
    · rintro ⟨ticket, membership, admits, may, rest⟩
      exact ⟨ticket, membership, ⟨admits.found, admits.seen, may⟩, rest⟩
    · rintro ⟨ticket, membership, admits, rest⟩
      exact ⟨ticket, membership, ⟨admits.found, admits.seen, rfl⟩, admits.allows, rest⟩

/-! Automatic assignment. -/

theorem countAssignment_runs (place agentUserId : Nat)
    (user : (reached.db.findUser agentUserId).isSome = true)
    (organization : (reached.db.findOrganization place).isSome = true) :
    (countAssignment place agentUserId).run reached =
      (.ok (), reached.withDb (counted reached.now place agentUserId)) := by
  rw [countAssignment, run_attempt]
  by_cases there : reached.db.agentWorkloads.any (isWorkloadOf place agentUserId) = true
  · simp [there, counted, World.withDb]
  · simp [there, user, organization, counted, World.withDb]

theorem createTicketActivityLog_runs (actorId : Nat) (action : TicketActivityAction)
    (oldValue newValue : Option String) (ticket : (reached.db.findTicket ticketId).isSome = true)
    (actor : (reached.db.findUser actorId).isSome = true) :
    ∃ activity, (createTicketActivityLog ticketId actorId action oldValue newValue).run reached =
      (.ok activity, reached.withDb (logActivity activity)) := by
  rw [createTicketActivityLog, run_attempt]
  simp [ticket, actor]

theorem writeTicket_runs (change : Ticket → Ticket) (old : Ticket)
    (found : reached.db.findTicket ticketId = some old)
    (resolves : keysResolve reached.db (change old) = true) :
    ∃ written left, (writeTicket ticketId change none).run reached = (.ok written, left) := by
  have resolved : keysResolve reached.db { change old with updatedAt := reached.now } = true :=
    resolves
  rw [writeTicket, run_attempt]
  simp [found, resolved]

theorem autoAssignTicket_runs (showId : Nat → String) (place agentUserId : Nat) (row : Ticket)
    (found : reached.db.findTicket ticketId = some row)
    (organization : (reached.db.findOrganization place).isSome = true)
    (resolves : keysResolve reached.db (autoAssigning agentUserId row) = true) :
    ∃ answered left,
      (autoAssignTicket showId ticketId place agentUserId).run reached = (.ok answered, left) := by
  have agent : (reached.db.findUser agentUserId).isSome = true := by
    simp only [keysResolve, autoAssigning, Option.all_some, Bool.and_eq_true] at resolves
    exact resolves.2
  obtain ⟨-, tickets, users, organizations, -⟩ :=
    counted_rows reached.now place agentUserId reached.db
  let tallied := reached.withDb (counted reached.now place agentUserId)
  have stored : tallied.db.findTicket ticketId = some row := by
    rw [Database.findTicket]
    exact (congrArg _ tickets).trans found
  have actor : (tallied.db.findUser agentUserId).isSome = true := by
    rw [Database.findUser]
    exact (congrArg (fun rows => (rows.find? fun user => user.id == agentUserId).isSome)
      users).trans agent
  obtain ⟨activity, logs⟩ := createTicketActivityLog_runs agentUserId .ticketAssigned none
    (some (showId agentUserId)) (by rw [stored]; rfl) actor
  have resolved : keysResolve (tallied.withDb (logActivity activity)).db
      (autoAssigning agentUserId row) = true := by
    simp only [tallied, World.withDb_db, keysResolve_logActivity,
      keysResolve_congr users organizations]
    exact resolves
  have there : (tallied.withDb (logActivity activity)).db.findTicket ticketId = some row :=
    stored
  obtain ⟨written, left, writes⟩ :=
    writeTicket_runs (autoAssigning agentUserId) row there resolved
  refine ⟨written, left, (Program.transaction_ok ..).mpr ?_⟩
  refine (bind_ok ..).mpr ⟨(), tallied, countAssignment_runs _ _ agent organization, ?_⟩
  exact (bind_ok ..).mpr ⟨activity, _, logs, writes⟩

theorem autoAssignTicketForOrganization_spares_iff (tables : reached.db = world.db)
    (clock : reached.now = world.now) (keys : TicketKeys world.db) (ticket : Ticket)
    (found : world.db.findTicket ticket.id = some ticket) :
    SameTickets organizationId world.db
        ((autoAssignTicketForOrganization locale ticket).run reached).2.db ↔
      ¬∃ agentUserId, bestAgent locale world ticket.organizationId = some agentUserId ∧
        Rewrites organizationId world.db world.now ticket.id (autoAssigning agentUserId) := by
  have best : bestAgent locale reached ticket.organizationId =
      bestAgent locale world ticket.organizationId :=
    bestAgent_congr _ clock (by rw [tables]) (by rw [tables]) (by rw [tables])
  unfold autoAssignTicketForOrganization
  rw [run_bind, run_findBestAutoAssignAgent, best]
  rw [← tables] at keys found ⊢
  rw [← clock]
  cases bestAgent locale world ticket.organizationId with
  | none => exact iff_of_true (SameRows.refl _ _) (by simp)
  | some agentUserId =>
    change SameTickets organizationId reached.db
      ((autoAssignTicket locale.showId ticket.id ticket.organizationId agentUserId).run
        reached).2.db ↔ _
    rcases ran : (autoAssignTicket locale.showId ticket.id ticket.organizationId agentUserId).run
      reached with ⟨failure | answered, left⟩
    · rw [Program.transaction_failed _ _ _ _ ran]
      refine iff_of_true (SameRows.refl _ _) ?_
      rintro ⟨_, ⟨⟩, stored, there, -, resolves, -⟩
      rw [found, Option.some.injEq] at there
      subst there
      have organization := resolves
      simp only [keysResolve, autoAssigning, Bool.and_eq_true] at organization
      obtain ⟨answered, left', runs⟩ :=
        autoAssignTicket_runs locale.showId _ _ _ found organization.1.1 resolves
      rw [runs] at ran
      cases ran
    · obtain ⟨old, stored, resolves, rfl, -⟩ := autoAssignTicket_written _ _ _ _ _ ran
      obtain ⟨-, tickets, -⟩ :=
        counted_rows reached.now ticket.organizationId agentUserId reached.db
      have left : (autoAssigned locale.showId reached.now ticket.organizationId agentUserId old
            ticket.id reached.db).tickets =
          changeWhere (·.id == ticket.id)
            (fun _ => { autoAssigning agentUserId old with updatedAt := reached.now })
            reached.db.tickets := by
        change changeWhere _ _ (counted _ _ _ reached.db).tickets = _
        rw [tickets]
        rfl
      rw [SameTickets, World.withDb_db, left, rewritten_spares_iff keys (autoAssigning agentUserId)
        (within_autoAssigning agentUserId) reached.now old stored resolves]
      simp

theorem autoAssignTicketService_spares_iff (keys : TicketKeys world.db) :
    SameTickets organizationId world.db
        ((autoAssignTicketService locale ticketId userId).run world).2.db ↔
      ¬Writes locale organizationId world userId (.autoAssignTicket ticketId) := by
  refine admitting_spares_iff _ _ _ _ fun ticket membership admits => ?_
  have own := findTicket_id _ _ _ admits.found
  have found := admits.found
  rw [← own] at found ⊢
  exact autoAssignTicketForOrganization_spares_iff (afterLooking_db ..) (afterLooking_now ..) keys
    ticket found

/-! Creation. -/

theorem recovered_state (created : ListedTicket) (world : World) :
    ((Program.recover
      (do
        let assigned ← autoAssignTicketForOrganization locale created.toTicket
        return CreatedTicket.assigned assigned)
      fun error =>
        if error.code = some "NO_AGENT_AVAILABLE" then pure (.listed created)
        else Program.fail error).run world).2 =
      ((autoAssignTicketForOrganization locale created.toTicket).run world).2 := by
  -- The creation is as good as the automatic assignment that follows it.
  rw [Program.run_recover, run_bind]
  rcases (autoAssignTicketForOrganization locale created.toTicket).run world with
    ⟨failure | result, reached⟩
  · dsimp only
    split <;> rfl
  · rfl

theorem autoAssigned_row (ticket : Ticket) (found : world.db.findTicket ticket.id = some ticket) :
    ∃ row ∈ ((autoAssignTicketForOrganization locale ticket).run world).2.db.tickets,
      row.id = ticket.id ∧ row.organizationId = ticket.organizationId := by
  -- An automatic assignment keeps the row of its ticket, in whatever state.
  have member := List.mem_of_find?_eq_some found
  unfold autoAssignTicketForOrganization
  rw [run_bind, run_findBestAutoAssignAgent]
  cases bestAgent locale world ticket.organizationId with
  | none => exact ⟨ticket, member, rfl, rfl⟩
  | some agentUserId =>
    change ∃ row ∈ ((autoAssignTicket locale.showId ticket.id ticket.organizationId
      agentUserId).run world).2.db.tickets, _
    rcases ran : (autoAssignTicket locale.showId ticket.id ticket.organizationId agentUserId).run
      world with ⟨failure | answered, left⟩
    · rw [Program.transaction_failed _ _ _ _ ran]
      exact ⟨ticket, member, rfl, rfl⟩
    · obtain ⟨old, stored, rfl⟩ := autoAssignTicket_ok _ _ _ _ _ ran
      rw [found, Option.some.injEq] at stored
      subst stored
      have ⟨_, tickets, _⟩ := counted_rows world.now ticket.organizationId agentUserId world.db
      refine ⟨{ autoAssigning agentUserId ticket with updatedAt := world.now }, ?_, rfl, rfl⟩
      refine mem_changeWhere.mpr (.inr ⟨ticket, ?_, by simp, rfl⟩)
      change ticket ∈ (counted _ _ _ world.db).tickets
      rw [tickets]
      exact member

def creating (locale : Locale) (ticketData : TicketData) (userId : Nat) : Call CreatedTicket := do
  let ticket ← createTicket ticketData userId
  emitTicketEvent
    { name := .created
      ticketId := ticket.id
      organizationId := ticket.organizationId
      actorId := userId
      metadata := { title := some ticket.title } }
  if ticket.assignedToId.isSome then return .listed ticket
  else
    Program.recover
      (do
        let assigned ← autoAssignTicketForOrganization locale ticket.toTicket
        return .assigned assigned)
      fun error =>
        if error.code = some "NO_AGENT_AVAILABLE" then pure (.listed ticket)
        else Program.fail error

section Inserted

variable {new : Ticket} (keys : TicketKeys db) (id : new.id = db.nextId)
include keys id

theorem not_stored : ∀ row ∈ db.tickets, row.id ≠ new.id := by
  intro row member same
  have bound := keys.generated row member
  omega

theorem TicketKeys.inserted : TicketKeys (insertTicket new db) := by
  constructor
  · change ((db.tickets ++ [new]).map (·.id)).Nodup
    rw [List.map_append, List.nodup_append]
    refine ⟨keys.unique, by simp, ?_⟩
    rintro _ old _ now rfl
    obtain ⟨row, member, same⟩ := List.mem_map.mp old
    rw [List.map_singleton, List.mem_singleton] at now
    exact not_stored keys id row member (same.trans now)
  · intro row member
    change row.id < db.nextId + 1
    rcases List.mem_append.mp member with old | now
    · exact (keys.generated row old).trans (Nat.lt_succ_self _)
    · rw [List.mem_singleton.mp now, id]
      exact Nat.lt_succ_self _

theorem findTicket_inserted : (insertTicket new db).findTicket new.id = some new := by
  have absent : db.tickets.find? (fun row => row.id == new.id) = none := by
    simpa using not_stored keys id
  change (db.tickets ++ [new]).find? (fun row => row.id == new.id) = some new
  rw [List.find?_append, absent]
  simp

theorem inserted_spares_iff (after : Database)
    (stays : ∃ row ∈ after.tickets, row.id = new.id ∧ row.organizationId = new.organizationId)
    (others : new.organizationId ≠ organizationId →
      SameTickets organizationId (insertTicket new db) after) :
    SameTickets organizationId db after ↔ ¬new.organizationId = organizationId := by
  -- The new row stays in some state, and the others are left alone where it is not the
  -- organisation's.
  constructor
  · intro same mine
    obtain ⟨row, member, isNew, place⟩ := stays
    exact not_stored keys id row ((same row (place.trans mine)).mp member) isNew
  · intro foreign
    have appended : SameTickets organizationId db (insertTicket new db) :=
      SameRows.append fun row member => by
        rw [List.mem_singleton.mp member]
        exact foreign
    exact appended.trans (others foreign)

end Inserted

theorem creating_spares_iff (tables : reached.db = world.db) (clock : reached.now = world.now)
    (keys : TicketKeys world.db) (ticketData : TicketData) :
    SameTickets organizationId world.db ((creating locale ticketData userId).run reached).2.db ↔
      ¬(ticketData.organizationId = organizationId ∧
        keysResolve world.db (newTicket world ticketData userId) = true) := by
  have alike : newTicket world ticketData userId = newTicket reached ticketData userId := by
    simp [newTicket, tables, clock]
  rw [alike]
  rw [← tables] at keys ⊢
  let new := newTicket reached ticketData userId
  unfold creating
  rw [run_bind]
  rcases ran : (createTicket ticketData userId).run reached with ⟨failure | created, left⟩
  · rw [Program.attempt_failed _ _ _ _ ran]
    refine iff_of_true (SameRows.refl _ _) ?_
    rintro ⟨-, resolves⟩
    rw [createTicket, run_attempt] at ran
    simp [resolves] at ran
  · obtain ⟨resolves, rfl, rfl⟩ := createTicket_ok _ _ _ ran
    rw [and_iff_left resolves]
    have keys' : TicketKeys (insertTicket new reached.db) := keys.inserted rfl
    have found : (insertTicket new reached.db).findTicket new.id = some new :=
      findTicket_inserted keys rfl
    have spared (emitted : World) (tables : emitted.db = insertTicket new reached.db)
        (foreign : new.organizationId ≠ organizationId) :
        SameTickets organizationId (insertTicket new reached.db)
          ((autoAssignTicketForOrganization locale new).run emitted).2.db := by
      rw [← tables] at keys' found ⊢
      refine (autoAssignTicketForOrganization_spares_iff rfl rfl keys' new found).mpr ?_
      rintro ⟨agentUserId, -, ticket, there, mine, -⟩
      rw [found, Option.some.injEq] at there
      exact foreign (there ▸ mine)
    have id : new.id = reached.db.nextId := rfl
    dsimp only
    rw [run_bind, emitTicketEvent, Program.run_modify]
    dsimp only
    split
    · refine inserted_spares_iff keys id _ ⟨new, ?_, rfl, rfl⟩ fun _ => SameRows.refl _ _
      exact List.mem_append_right _ (List.mem_singleton.mpr rfl)
    · rw [recovered_state]
      exact inserted_spares_iff keys id _ (autoAssigned_row new found) fun foreign =>
        spared _ rfl foreign

theorem createTicketService_spares_iff (keys : TicketKeys world.db) (ticketData : TicketData) :
    SameTickets organizationId world.db
        ((createTicketService locale ticketData userId).run world).2.db ↔
      ¬Writes locale organizationId world userId (.createTicket ticketData) := by
  have service : createTicketService locale ticketData userId = (do
      let _ ← memberOf ticketData.organizationId userId
        "You do not have permission to create tickets for this organization"
      validateTicketAssignee ticketData.organizationId ticketData.assignedToId
      creating locale ticketData userId) := rfl
  rw [service, run_bind]
  cases seen : seenMembership world ticketData.organizationId userId with
  | none =>
    have refused : ¬Writes locale organizationId world userId (.createTicket ticketData) := by
      rintro ⟨rfl, member, -⟩
      rw [seen] at member
      cases member
    refine iff_of_true ?_ refused
    rw [memberOf, run_bind, run_getTicketOrganizationMembership, seen]
    simp [Program.orFail, SameRows.refl]
  | some membership =>
    have recognized : (memberOf ticketData.organizationId userId
        "You do not have permission to create tickets for this organization").run world =
        (.ok membership, afterLooking world ticketData.organizationId userId) :=
      (memberOf_ok ..).mpr ⟨seen, rfl⟩
    rw [recognized]
    refine (validated_spares_iff (afterLooking_db ..) _ _ _).trans ?_
    rw [creating_spares_iff ((afterValidating_db ..).trans (afterLooking_db ..))
      ((afterValidating_now ..).trans (afterLooking_now ..)) keys, validAssignee_afterLooking]
    simp only [Writes]
    constructor
    · rintro spared ⟨rfl, -, valid, resolves⟩
      exact spared valid ⟨rfl, resolves⟩
    · rintro spared valid ⟨rfl, resolves⟩
      exact spared ⟨rfl, by rw [seen]; rfl, valid, resolves⟩

end Tenants

section TicketCall

variable (locale : Locale) (organizationId userId : Nat) (call : TicketCall)

theorem service_spares_iff (world : World) (keys : TicketKeys world.db) :
    SameTickets organizationId world.db ((call.service locale userId).run world).2.db ↔
      ¬Writes locale organizationId world userId call := by
  -- Whatever service a caller calls, the tickets of the organisation are the same ones afterwards
  -- exactly where the call is not let through to write one.
  have read {α : Type} {service : Call α} (keeps : Program.Keeps (Plain world) service) :
      SameTickets organizationId world.db
          ((service >>= fun _ => (pure () : Call Unit)).run world).2.db ↔ ¬False := by
    have plain := plain_of_run (keeps.bind fun _ => Program.Keeps.pure ()) rfl
    refine iff_of_true ?_ not_false
    rw [SameTickets, plain.tickets]
    exact SameRows.refl _ _
  have write {α : Type} {service : Call α} {strikes : Prop}
      (spares : SameTickets organizationId world.db (service.run world).2.db ↔ ¬strikes) :
      SameTickets organizationId world.db
          ((service >>= fun _ => (pure () : Call Unit)).run world).2.db ↔ ¬strikes := by
    rw [db_discarded (fun _ _ => rfl)]
    exact spares
  cases call with
  | createTicket ticketData => exact write (createTicketService_spares_iff keys ticketData)
  | autoAssignTicket ticketId => exact write (autoAssignTicketService_spares_iff keys)
  | assignTicket ticketId assignedToId =>
    exact write (assignTicketService_spares_iff locale keys assignedToId)
  | getTickets query => exact read (getTicketsService_plain _ _)
  | getMyAgentTickets query => exact read (getMyAgentTicketsService_plain _ _)
  | getTicketById ticketId => exact read (getTicketByIdService_plain _ _)
  | updateTicket ticketId ticketData =>
    exact write (updateTicketService_spares_iff locale keys ticketData)
  | updateTicketStatus ticketId status =>
    exact write (updateTicketStatusService_spares_iff locale keys status)
  | createTicketComment ticketId commentData => exact read (createTicketCommentService_plain _ _ _)
  | getTicketComments ticketId => exact read (getTicketCommentsService_plain _ _)
  | getTicketActivities ticketId => exact read (getTicketActivitiesService_plain _ _)
  | deleteTicketComment ticketId commentId => exact read (deleteTicketCommentService_plain _ _ _)
  | createTicketAttachment ticketId attachmentData =>
    exact read (createTicketAttachmentService_plain _ _ _)
  | getTicketAttachments ticketId => exact read (getTicketAttachmentsService_plain _ _)
  | deleteTicketAttachment ticketId attachmentId =>
    exact read (deleteTicketAttachmentService_plain _ _ _)
  | createTag organizationId name => exact read (createTagService_plain _ _ _)
  | getTags organizationId => exact read (getTagsService_plain _ _)
  | addTicketTag ticketId tagId => exact read (addTicketTagService_plain _ _ _)
  | deleteTicketTag ticketId tagId => exact read (deleteTicketTagService_plain _ _ _)

theorem writes_congr {world : World} (tables : reached.db = world.db)
    (clock : reached.now = world.now) (copies : reached.membershipCache = world.membershipCache) :
    Writes locale organizationId reached userId call ↔
      Writes locale organizationId world userId call := by
  -- What a call writes is determined by the tables, the clock and the copies of memberships.
  have seen (place member : Nat) : seenMembership reached place member =
      seenMembership world place member := by
    rw [seenMembership, seenMembership, tables, copies]
  have admits (ticketId : Nat) (allowed : OrgRole → Ticket → Bool) (ticket : Ticket)
      (membership : OrganizationMembership) :
      Admits reached ticketId userId allowed ticket membership ↔
        Admits world ticketId userId allowed ticket membership := by
    constructor
    · rintro ⟨found, member, allows⟩
      exact ⟨tables ▸ found, seen _ _ ▸ member, allows⟩
    · rintro ⟨found, member, allows⟩
      exact ⟨tables ▸ found, (seen _ _).trans member, allows⟩
  have best (place : Nat) : bestAgent locale reached place = bestAgent locale world place :=
    bestAgent_congr place clock (by rw [tables]) (by rw [tables]) (by rw [tables])
  have created (ticketData : TicketData) : newTicket reached ticketData userId =
      newTicket world ticketData userId := by
    simp [newTicket, tables, clock]
  cases call <;> simp only [Writes, ValidAssignee, tables, clock, seen, admits, best, created]

end TicketCall

theorem Writes.member {locale : Locale} {organizationId userId : Nat} {world : World}
    {call : TicketCall} (writes : Writes locale organizationId world userId call) :
    (seenMembership world organizationId userId).isSome = true := by
  -- Only one whom the gateway sees to be a member writes a ticket of the organisation.
  have own {ticketId : Nat} {allowed : OrgRole → Ticket → Bool} {change : Ticket → Ticket}
      {ticket : Ticket} {membership : OrganizationMembership}
      (admits : Admits world ticketId userId allowed ticket membership)
      (rewrites : Rewrites organizationId world.db world.now ticketId change) :
      (seenMembership world organizationId userId).isSome = true := by
    obtain ⟨stored, found, mine, -⟩ := rewrites
    have seen := admits.seen
    rw [admits.found, Option.some.injEq] at found
    rw [found, mine] at seen
    rw [seen]
    rfl
  cases call with
  | createTicket ticketData => exact writes.2.1
  | autoAssignTicket ticketId =>
    obtain ⟨ticket, membership, admits, agentUserId, -, rewrites⟩ := writes
    exact own admits rewrites
  | assignTicket ticketId assignedToId =>
    obtain ⟨ticket, membership, admits, -, rewrites⟩ := writes
    exact own admits rewrites
  | updateTicket ticketId ticketData =>
    obtain ⟨ticket, membership, admits, -, -, rewrites⟩ := writes
    exact own admits rewrites
  | updateTicketStatus ticketId status =>
    obtain ⟨ticket, membership, admits, rewrites⟩ := writes
    exact own admits rewrites
  | _ => exact writes.elim

end HelpForge.Tickets
