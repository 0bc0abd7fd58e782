import HelpForge.Tickets.Service
import HelpForge.Tickets.Writes

set_option autoImplicit false

namespace HelpForge.Tickets

open Lib
open Lib.Program (Upholds Answers Stable)

def HasMember (db : Database) (organizationId userId : Nat) : Prop :=
  ∃ membership ∈ db.memberships,
    membership.organizationId = organizationId ∧ membership.userId = userId

def AssignedMembers (db : Database) : Prop :=
  -- Every assignee is a member of the organisation of the ticket.
  ∀ ticket ∈ db.tickets, ∀ userId ∈ ticket.assignedToId, HasMember db ticket.organizationId userId

/-- With what the assignments rely on. -/
structure Manned (world : World) : Prop where
  assignees : AssignedMembers world.db
  workloads : ∀ row ∈ world.db.agentWorkloads, HasMember world.db row.organizationId row.userId
  copies : ∀ organizationId userId copy,
    world.membershipCache organizationId userId = some copy →
      HasMember world.db organizationId userId

structure Later (earlier world : World) : Prop where
  members : ∀ organizationId userId, HasMember earlier.db organizationId userId →
    HasMember world.db organizationId userId
  ids : ∀ old ∈ earlier.db.tickets, old.id < world.db.nextId
  organizations : ∀ old ∈ earlier.db.tickets, ∀ ticket ∈ world.db.tickets, old.id = ticket.id →
    old.organizationId = ticket.organizationId

def Held : List World → Prop
  | [] => True
  | world :: past => Manned world ∧ ∀ earlier ∈ world :: past, Later earlier world

section Held

variable {world reached : World} {past : List World}

section Held

variable (held : Held (world :: past))

include held

theorem Held.next (manned : Manned reached)
    (members : ∀ organizationId userId, HasMember world.db organizationId userId →
      HasMember reached.db organizationId userId) (nextId : world.db.nextId ≤ reached.db.nextId)
    (organizationId : Nat)
    (tickets : ∀ ticket ∈ reached.db.tickets,
      (∃ old ∈ world.db.tickets, old.id = ticket.id ∧
        old.organizationId = ticket.organizationId) ∨
      (ticket.id = world.db.nextId ∧ ticket.organizationId = organizationId ∧
        world.db.nextId < reached.db.nextId)) : Held (reached :: world :: past) := by
  -- The tickets are those there were, and at most one that is new.
  obtain ⟨-, later⟩ := held
  have now := later world (List.mem_cons_self ..)
  refine ⟨manned, fun earlier member => ?_⟩
  rcases List.mem_cons.mp member with rfl | before
  · refine ⟨fun _ _ there => there, ?_, ?_⟩
    · intro ticket here
      rcases tickets ticket here with ⟨old, there, id, -⟩ | ⟨id, -, grown⟩
      · rw [← id]
        exact (now.ids old there).trans_le nextId
      · rw [id]
        exact grown
    · intro first here second here' same
      rcases tickets first here with ⟨old, there, id, place⟩ | ⟨id, place, -⟩ <;>
        rcases tickets second here' with ⟨old', there', id', place'⟩ | ⟨id', place', -⟩
      · rw [← place, ← place']
        exact now.organizations old there old' there' (by rw [id, id', same])
      · have bound := now.ids old there
        omega
      · have bound := now.ids old' there'
        omega
      · rw [place, place']
  · have then_ := later earlier before
    refine ⟨fun _ _ there => members _ _ (then_.members _ _ there), ?_, ?_⟩
    · intro old there
      exact (then_.ids old there).trans_le nextId
    · intro old there ticket here same
      rcases tickets ticket here with ⟨old', there', id, place⟩ | ⟨id, -, -⟩
      · rw [← place]
        exact then_.organizations old there old' there' (same.trans id.symm)
      · have bound := then_.ids old there
        omega

theorem Held.aside (tickets : reached.db.tickets = world.db.tickets)
    (memberships : reached.db.memberships = world.db.memberships)
    (workloads : reached.db.agentWorkloads = world.db.agentWorkloads)
    (nextId : world.db.nextId ≤ reached.db.nextId)
    (copies : ∀ organizationId userId copy,
      reached.membershipCache organizationId userId = some copy →
        HasMember world.db organizationId userId) : Held (reached :: world :: past) := by
  -- A step that leaves the tables alone which the assignments are about.
  have same : ∀ organizationId userId, HasMember world.db organizationId userId →
      HasMember reached.db organizationId userId := by
    intro organizationId userId there
    rw [HasMember, memberships]
    exact there
  refine held.next ⟨?_, ?_, ?_⟩ same nextId 0 ?_
  · intro ticket member userId named
    rw [tickets] at member
    exact same _ _ (held.1.assignees ticket member userId named)
  · intro row member
    rw [workloads] at member
    exact same _ _ (held.1.workloads row member)
  · intro organizationId userId copy there
    exact same _ _ (copies organizationId userId copy there)
  · intro ticket member
    rw [tickets] at member
    exact .inl ⟨ticket, member, rfl, rfl⟩

theorem Held.stored (ticketId : Nat) (old ticket : Ticket)
    (found : world.db.findTicket ticketId = some old) (id : ticket.id = old.id)
    (place : ticket.organizationId = old.organizationId)
    (assigned : ∀ userId ∈ ticket.assignedToId, HasMember world.db old.organizationId userId)
    (tickets : reached.db.tickets = (storeTicket ticketId ticket world.db).tickets)
    (memberships : reached.db.memberships = world.db.memberships)
    (workloads : ∀ row ∈ reached.db.agentWorkloads,
      HasMember world.db row.organizationId row.userId)
    (nextId : world.db.nextId ≤ reached.db.nextId)
    (copies : reached.membershipCache = world.membershipCache) :
    Held (reached :: world :: past) := by
  -- A ticket of the organisation is written, for one of its members or for nobody.
  have same : ∀ organizationId userId, HasMember world.db organizationId userId →
      HasMember reached.db organizationId userId := by
    intro organizationId userId there
    rw [HasMember, memberships]
    exact there
  have stored := List.mem_of_find?_eq_some found
  refine held.next ⟨?_, ?_, ?_⟩ same nextId 0 ?_
  · intro other member userId named
    rw [tickets] at member
    rcases mem_changeWhere.mp member with ⟨before, -⟩ | ⟨-, -, -, rfl⟩
    · exact same _ _ (held.1.assignees other before userId named)
    · rw [place]
      exact same _ _ (assigned userId named)
  · intro row member
    exact same _ _ (workloads row member)
  · intro organizationId userId copy there
    rw [copies] at there
    exact same _ _ (held.1.copies organizationId userId copy there)
  · intro other member
    rw [tickets] at member
    rcases mem_changeWhere.mp member with ⟨before, -⟩ | ⟨-, -, -, rfl⟩
    · exact .inl ⟨other, before, rfl, rfl⟩
    · exact .inl ⟨old, stored, id.symm, place.symm⟩

theorem Held.same : Held (world :: world :: past) :=
  held.aside rfl rfl rfl (Nat.le_refl _) held.1.copies

end Held

end Held

def Member (seen : List World) (organizationId userId : Nat) : Prop :=
  ∃ world ∈ seen, HasMember world.db organizationId userId

def Placed (seen : List World) (ticketId organizationId : Nat) : Prop :=
  ∃ world ∈ seen, ∃ ticket ∈ world.db.tickets,
    ticket.id = ticketId ∧ ticket.organizationId = organizationId

theorem member_stable (organizationId userId : Nat) :
    Stable fun seen => Member seen organizationId userId := by
  rintro seen later grown ⟨world, before, there⟩
  exact ⟨world, grown.subset before, there⟩

theorem placed_stable (ticketId organizationId : Nat) :
    Stable fun seen => Placed seen ticketId organizationId := by
  rintro seen later grown ⟨world, before, there⟩
  exact ⟨world, grown.subset before, there⟩

section Facts

variable {world : World} {past seen : List World} {organizationId userId ticketId : Nat}

theorem Held.member (held : Held (world :: past)) (grown : seen <:+ world :: past)
    (member : Member seen organizationId userId) : HasMember world.db organizationId userId := by
  obtain ⟨earlier, before, there⟩ := member
  exact (held.2 earlier (grown.subset before)).members _ _ there

theorem Held.place (held : Held (world :: past)) (grown : seen <:+ world :: past)
    (placed : Placed seen ticketId organizationId) (ticket : Ticket)
    (found : world.db.findTicket ticketId = some ticket) :
    ticket.organizationId = organizationId := by
  obtain ⟨earlier, before, old, there, rfl, rfl⟩ := placed
  have own : ticket.id = old.id := by simpa using List.find?_some found
  exact ((held.2 earlier (grown.subset before)).organizations old there ticket
    (List.mem_of_find?_eq_some found) own.symm).symm

end Facts

section Statements

variable {seen : List World}

abbrev Mans {α : Type} (program : Call α) (seen : List World) (fact : List World → α → Prop) :
    Prop :=
  -- A call upholds the assignments, and its answer satisfies the fact.
  program.Upholds Held (Answers fact) seen

theorem reads_mans {α : Type} (view : World → α) (fact : List World → α → Prop)
    (holds : ∀ world past, Held (world :: past) → fact (world :: world :: past) (view world)) :
    Mans (Program.reads view) seen fact := by
  refine Upholds.reads (fun world past _ held => held.same) ?_
  rintro world past _ held _ ⟨⟩
  exact holds world past held

theorem setCachedOrganizationMembership_mans (membership : OrganizationMembership)
    (member : Member seen membership.organizationId membership.userId) :
    Mans (Org.setCachedOrganizationMembership membership) seen fun _ _ => True := by
  refine Upholds.modify fun world past grown held => ⟨?_, fun _ _ => trivial⟩
  refine held.aside rfl rfl rfl (Nat.le_refl _) ?_
  intro organization user copy here
  unfold World.putMembership at here
  dsimp only at here
  split_ifs at here with own
  · rw [own.1, own.2]
    exact held.member grown member
  · exact held.1.copies organization user copy here

variable (organizationId : Nat) (userId : Nat)

theorem getTicketOrganizationMembership_mans :
    Mans (Org.getTicketOrganizationMembership organizationId userId) seen
      fun later found => found.isSome = true → Member later organizationId userId := by
  unfold Org.getTicketOrganizationMembership Org.getCachedOrganizationMembership
  refine Answers.bind (reads_mans _ (fun later cached => ∀ copy, cached = some copy →
    Member later organizationId userId) ?_) ?_
  · intro world past held copy cached
    exact ⟨world, List.mem_cons_self .., held.1.copies organizationId userId copy cached⟩
  intro cached later _ member
  cases cached with
  | some copy => exact Answers.pure fun _ => member copy rfl
  | none =>
    dsimp only
    refine Answers.bind (reads_mans _ (fun later found => ∀ membership, found = some membership →
      membership.organizationId = organizationId ∧ membership.userId = userId ∧
        Member later organizationId userId) ?_) ?_
    · intro world past _ membership found
      obtain ⟨row, stored, view⟩ := Option.bind_eq_some_iff.mp found
      obtain ⟨listed, owner, place⟩ := Database.findMembership_mem _ _ _ _ stored
      obtain ⟨-, same⟩ := Database.shows_of_withRole _ _ _ listed view
      refine ⟨by rw [same, place], by rw [same, owner], world, List.mem_cons_self .., ?_⟩
      exact ⟨row, listed, place, owner⟩
    intro found now _ member
    cases found with
    | none => exact Answers.pure (by simp)
    | some membership =>
      obtain ⟨place, owner, there⟩ := member membership rfl
      rw [← place, ← owner] at there
      refine Answers.bind (setCachedOrganizationMembership_mans membership there) ?_
      intro _ last grown _
      refine Answers.pure fun _ => ?_
      rw [← place, ← owner]
      exact member_stable _ _ _ _ grown there

theorem memberOf_mans (message : String) :
    Mans (memberOf organizationId userId message) seen fun _ _ => True :=
  Answers.bind (getTicketOrganizationMembership_mans organizationId userId) fun _ _ _ _ =>
    Answers.orFail fun _ _ => trivial

variable (ticketId : Nat)

theorem existingTicket_mans :
    Mans (existingTicket ticketId) seen fun later ticket =>
      ticket.id = ticketId ∧ Placed later ticketId ticket.organizationId := by
  refine Answers.bind (reads_mans _ (fun later found => ∀ ticket, found = some ticket →
    ticket.id = ticketId ∧ Placed later ticketId ticket.organizationId) ?_) ?_
  · intro world past _ ticket found
    obtain ⟨row, stored, rfl⟩ := Option.map_eq_some_iff.mp found
    have own : row.id = ticketId := by simpa using List.find?_some stored
    exact ⟨own, world, List.mem_cons_self .., row, List.mem_of_find?_eq_some stored, own, rfl⟩
  · intro found later _ placed
    exact Answers.orFail fun ticket there => placed ticket there

theorem admitted_mans (userId : Nat) (message : String) (allowed : OrgRole → Ticket → Bool) :
    Mans (admitted ticketId userId message allowed) seen fun later found =>
      found.1.id = ticketId ∧ Placed later ticketId found.1.organizationId := by
  refine Answers.bind (existingTicket_mans ticketId) fun ticket later _ placed => ?_
  refine Answers.bind (memberOf_mans _ _ _) fun membership next grown _ => ?_
  refine Answers.require_bind fun _ => ?_
  exact Answers.pure ⟨placed.1, placed_stable _ _ _ _ grown placed.2⟩

theorem validateTicketAssignee_mans (assignedToId : Option Nat) :
    Mans (validateTicketAssignee organizationId assignedToId) seen fun later _ =>
      ∀ userId ∈ assignedToId, Member later organizationId userId := by
  cases assignedToId with
  | none => exact Answers.pure (by simp)
  | some assignedToId =>
    refine Answers.bind (getTicketOrganizationMembership_mans _ _) fun found later _ member => ?_
    refine Answers.require fun there userId named => ?_
    cases named
    exact member there

theorem emitTicketEvent_mans (event : TicketEvent) :
    Mans (emitTicketEvent event) seen fun _ _ => True := by
  refine Upholds.modify fun world past _ held => ⟨?_, fun _ _ => trivial⟩
  exact held.aside rfl rfl rfl (Nat.le_refl _) held.1.copies

theorem createTicket_mans (data : TicketData) (createdById : Nat)
    (named : ∀ userId ∈ data.assignedToId, Member seen data.organizationId userId) :
    Mans (createTicket data createdById) seen fun later ticket =>
      Placed later ticket.id ticket.organizationId := by
  -- A ticket that is created goes to nobody or to a member.
  refine Upholds.attempt ?_ fun world past failure _ held _ => ⟨held.same, by simp [Answers]⟩
  intro world past value reached grown held outcome
  dsimp only at outcome
  split_ifs at outcome
  cases outcome
  let ticket := newTicket world data createdById
  have listed_ : ticket ∈ (insertTicket ticket world.db).tickets := by simp [insertTicket]
  refine ⟨held.next ⟨?_, held.1.workloads, held.1.copies⟩ (fun _ _ there => there)
    (Nat.le_succ _) data.organizationId ?_, ?_⟩
  · intro other member userId assigned
    rcases List.mem_append.mp member with before | now
    · exact held.1.assignees other before userId assigned
    · rw [List.mem_singleton.mp now] at assigned ⊢
      exact held.member grown (named userId assigned)
  · intro other member
    rcases List.mem_append.mp member with before | now
    · exact .inl ⟨other, before, rfl, rfl⟩
    · rw [List.mem_singleton.mp now]
      exact .inr ⟨rfl, rfl, Nat.lt_succ_self _⟩
  · rintro _ ⟨⟩
    exact ⟨_, List.mem_cons_self .., ticket, listed_, rfl, rfl⟩

theorem writeTicket_mans (change : Ticket → Ticket) (activity : Option (Nat × TicketActivityAction))
    (organizationId : Nat) (placed : Placed seen ticketId organizationId)
    (key : ∀ ticket, (change ticket).id = ticket.id ∧
      (change ticket).organizationId = ticket.organizationId)
    (assigns : ∀ ticket, ∀ userId ∈ (change ticket).assignedToId,
      userId ∈ ticket.assignedToId ∨ Member seen organizationId userId) :
    Mans (writeTicket ticketId change activity) seen fun _ _ => True := by
  refine Upholds.attempt ?_ fun world past failure _ held _ => ⟨held.same, by simp [Answers]⟩
  intro world past value reached grown held outcome
  have done : (writeTicket ticketId change activity).run world = (.ok value, reached) :=
    (Program.attempt_ok ..).mpr outcome
  obtain ⟨old, found, -, rfl, -⟩ := writeTicket_ok _ _ _ _ done
  let ticket := { change old with updatedAt := world.now }
  have nextId : world.db.nextId ≤
      (logOwn world.now ticketId activity (storeTicket ticketId ticket world.db)).nextId := by
    cases activity with
    | none => exact Nat.le_refl _
    | some entry => exact Nat.le_succ _
  refine ⟨held.stored ticketId old ticket found (key old).1 (key old).2 ?_ ?_ ?_ ?_ nextId rfl,
    fun _ _ => trivial⟩
  · intro userId named
    rcases assigns old userId named with before | member
    · exact held.1.assignees old (List.mem_of_find?_eq_some found) userId before
    · rw [held.place grown placed old found]
      exact held.member grown member
  · simp [World.withDb, ticket]
  · cases activity <;> rfl
  · cases activity <;> exact held.1.workloads

theorem counted_workloads (now organizationId agentUserId : Nat) (db : Database) :
    ∀ row ∈ (counted now organizationId agentUserId db).agentWorkloads,
      (∃ old ∈ db.agentWorkloads,
        old.organizationId = row.organizationId ∧ old.userId = row.userId) ∨
      (row.organizationId = organizationId ∧ row.userId = agentUserId) := by
  intro row member
  unfold counted at member
  split_ifs at member
  · rcases mem_changeWhere.mp member with ⟨before, -⟩ | ⟨old, before, -, rfl⟩
    · exact .inl ⟨row, before, rfl, rfl⟩
    · exact .inl ⟨old, before, rfl, rfl⟩
  · rcases List.mem_append.mp member with before | new
    · exact .inl ⟨row, before, rfl, rfl⟩
    · rw [List.mem_singleton.mp new]
      exact .inr ⟨rfl, rfl⟩

theorem autoAssignTicket_mans (showId : Nat → String) (ticketId organizationId agentUserId : Nat)
    (placed : Placed seen ticketId organizationId)
    (member : Member seen organizationId agentUserId) :
    Mans (autoAssignTicket showId ticketId organizationId agentUserId) seen fun _ _ => True := by
  refine Upholds.transaction ?_ fun world past failure _ held => ⟨held.same, by simp [Answers]⟩
  intro world past value reached grown held body
  have done : (autoAssignTicket showId ticketId organizationId agentUserId).run world =
      (.ok value, reached) := (Program.transaction_ok ..).mpr body
  obtain ⟨old, found, rfl⟩ := autoAssignTicket_ok _ _ _ _ _ done
  let ticket :=
    { old with
      assignedToId := some agentUserId, status := TicketStatus.inProgress, updatedAt := world.now }
  have ⟨nextId, tickets, _, _, memberships, _⟩ :=
    counted_rows world.now organizationId agentUserId world.db
  have here := held.member grown member
  refine ⟨held.stored ticketId old ticket found rfl rfl ?_ ?_ memberships ?_ ?_ rfl,
    fun _ _ => trivial⟩
  · rintro userId ⟨⟩
    rw [held.place grown placed old found]
    exact here
  · simp [World.withDb, autoAssigned, storeTicket, logActivity, tickets, ticket]
  · intro row listed
    rcases counted_workloads _ _ _ _ row listed with ⟨before, among, place, owner⟩ | ⟨place, owner⟩
    · rw [← place, ← owner]
      exact held.1.workloads before among
    · rw [place, owner]
      exact here
  · change world.db.nextId ≤ (counted _ _ _ world.db).nextId + 1
    omega

variable (locale : Locale)

theorem findBestAutoAssignAgent_mans (organizationId : Nat) :
    Mans (findBestAutoAssignAgent locale organizationId) seen fun later found =>
      ∀ userId ∈ found, Member later organizationId userId := by
  refine Answers.bind (reads_mans _ (fun later agents => ∀ agent ∈ agents,
    Member later organizationId agent.userId) ?_) ?_
  · intro world past _ agent among
    obtain ⟨row, available, view⟩ := List.mem_filterMap.mp among
    have listed := List.mem_filter.mp ((List.mem_insertionSort _).mp available)
    simp only [Bool.and_eq_true, beq_iff_eq] at listed
    obtain ⟨-, same⟩ := Database.shows_of_withRole _ _ _ listed.1 view
    exact ⟨world, List.mem_cons_self .., row, listed.1, listed.2.1.1, by rw [same]⟩
  · intro agents later _ members
    refine Answers.bind (reads_mans _ (fun _ _ => True) fun _ _ _ => trivial) ?_
    intro workloads next grown _
    refine Answers.bind (reads_mans _ (fun _ _ => True) fun _ _ _ => trivial) ?_
    intro now last grown' _
    refine Answers.pure ?_
    intro userId chosen
    obtain ⟨agent, first, rfl⟩ := Option.map_eq_some_iff.mp chosen
    have among := List.mem_of_mem_head? (Option.mem_def.mpr first)
    rw [eligibleAgents, List.mem_insertionSort, List.mem_filter] at among
    exact member_stable _ _ _ _ (grown.trans grown') (members agent among.1)

theorem autoAssignTicketForOrganization_mans (ticket : Ticket)
    (placed : Placed seen ticket.id ticket.organizationId) :
    Mans (autoAssignTicketForOrganization locale ticket) seen fun _ _ => True := by
  refine Answers.bind (findBestAutoAssignAgent_mans locale _) fun found later grown members => ?_
  refine Answers.orFail_bind fun userId chosen => ?_
  exact autoAssignTicket_mans _ _ _ _ (placed_stable _ _ _ _ grown placed) (members userId chosen)

end Statements

section Services

variable {seen : List World} (locale : Locale)

theorem createTicketService_mans (ticketData : TicketData) (userId : Nat) :
    Mans (createTicketService locale ticketData userId) seen fun _ _ => True := by
  refine Answers.bind (memberOf_mans _ _ _) fun _ first _ _ => ?_
  refine Answers.bind (validateTicketAssignee_mans _ _) fun _ second _ members => ?_
  refine Answers.bind (createTicket_mans _ _ members) fun ticket third _ placed => ?_
  refine Answers.bind (emitTicketEvent_mans _) fun _ fourth grown _ => ?_
  split_ifs
  · exact Answers.pure trivial
  · have assigned := autoAssignTicketForOrganization_mans locale ticket.toTicket
      (placed_stable _ _ _ _ grown placed)
    have answered : Mans (autoAssignTicketForOrganization locale ticket.toTicket >>=
        fun assigned => pure (.assigned assigned)) fourth fun _ (_ : CreatedTicket) => True :=
      Answers.bind assigned fun _ _ _ _ => Answers.pure trivial
    refine answered.recover (fun _ _ _ _ _ _ => trivial) fun error later _ _ => ?_
    split_ifs
    · exact Answers.pure trivial
    · exact Answers.fail error

variable (ticketId : Nat)

theorem autoAssignTicketService_mans (userId : Nat) :
    Mans (autoAssignTicketService locale ticketId userId) seen fun _ _ => True := by
  refine Answers.bind (admitted_mans _ _ _ _) fun ⟨ticket, membership⟩ later _ placed => ?_
  refine autoAssignTicketForOrganization_mans locale ticket.toTicket ?_
  rw [placed.1]
  exact placed.2

theorem assignTicketService_mans (assignedToId userId : Nat) :
    Mans (assignTicketService ticketId assignedToId userId) seen fun _ _ => True := by
  refine Answers.bind (admitted_mans _ _ _ _) fun ⟨ticket, membership⟩ later _ placed => ?_
  refine Answers.bind (validateTicketAssignee_mans _ _) fun _ next grown members => ?_
  have still := placed_stable _ _ _ _ grown placed.2
  have member := members assignedToId rfl
  refine Answers.bind (writeTicket_mans ticketId _ _ _ still ?_ ?_) fun _ _ _ _ => ?_
  · intro ticket
    exact ⟨rfl, rfl⟩
  · rintro ticket userId ⟨⟩
    exact .inr member
  · exact Answers.bind (emitTicketEvent_mans _) fun _ _ _ _ => Answers.pure trivial

theorem assertCanUpdateTicket_mans (role : OrgRole) (ticket : Ticket) (userId : Nat)
    (updates : TicketUpdates) :
    Mans (assertCanUpdateTicket role ticket userId updates) seen fun _ _ => True := by
  unfold assertCanUpdateTicket
  split_ifs
  · exact Answers.pure trivial
  · exact Answers.require_bind fun _ => Answers.require fun _ => trivial

theorem updateTicketService_mans (ticketData : TicketUpdates) (userId : Nat) :
    Mans (updateTicketService ticketId ticketData userId) seen fun _ _ => True := by
  refine Answers.bind (admitted_mans _ _ _ _) fun ⟨ticket, membership⟩ later _ placed => ?_
  refine Answers.bind (assertCanUpdateTicket_mans _ _ _ _) fun _ next grown _ => ?_
  refine Answers.bind (validateTicketAssignee_mans _ _) fun _ last grown' members => ?_
  have still := placed_stable _ _ _ _ (grown.trans grown') placed.2
  refine Answers.bind (writeTicket_mans ticketId _ _ _ still ?_ ?_) fun _ _ _ _ => ?_
  · intro ticket
    exact ⟨rfl, rfl⟩
  · intro ticket assignee named
    unfold TicketUpdates.apply at named
    cases given : ticketData.assignedToId with
    | none =>
      simp only [given, Option.none_or] at named
      exact .inl named
    | some assignedToId =>
      simp only [given, Option.some_or] at named
      exact .inr (members assignee (by rw [given]; exact named))
  · exact Answers.pure trivial

end Services

end HelpForge.Tickets
