import HelpForge.Lib.Watched
import HelpForge.Tickets.Service
import HelpForge.Tickets.Workload

set_option autoImplicit false

namespace HelpForge.Tickets

open Lib
open Lib.Program (UpholdsWhere Each)

structure WithinCaps (membership : Membership) (row : AgentWorkload) : Prop where
  day : ∀ cap ∈ membership.maxTicketsPerDay, row.assignedToday ≤ cap
  week : ∀ cap ∈ membership.maxTicketsPerWeek, row.assignedThisWeek ≤ cap

def Capped (db : Database) : Prop :=
  -- No agent has more assignments than the membership's limits allow.
  ∀ membership ∈ db.memberships, ∀ row ∈ db.agentWorkloads,
    isWorkloadOf membership.organizationId membership.userId row = true →
      WithinCaps membership row

/-- The keys of the memberships and of the workloads are unique, as the schema has it. -/
structure UniqueKeys (db : Database) : Prop where
  memberships : (db.memberships.map fun membership =>
    (membership.userId, membership.organizationId)).Nodup
  workloads : (db.agentWorkloads.map fun row => (row.userId, row.organizationId)).Nodup

structure SamePeriod (locale : Locale) (world reached : World) : Prop where
  memberships : reached.db.memberships = world.db.memberships
  workloads : reached.db.agentWorkloads = world.db.agentWorkloads
  day : locale.startOfDay reached.now = locale.startOfDay world.now
  week : locale.startOfWeek reached.now = locale.startOfWeek world.now

section Rows

variable {db : Database} {organizationId userId : Nat}

theorem isWorkloadOf_iff (row : AgentWorkload) :
    isWorkloadOf organizationId userId row = true ↔
      row.userId = userId ∧ row.organizationId = organizationId := by
  simp [isWorkloadOf]

theorem UniqueKeys.workload_eq (unique : UniqueKeys db) {first second : AgentWorkload}
    (one : first ∈ db.agentWorkloads) (other : second ∈ db.agentWorkloads)
    (hit : isWorkloadOf organizationId userId first = true)
    (hit' : isWorkloadOf organizationId userId second = true) : first = second := by
  rw [isWorkloadOf_iff] at hit hit'
  exact List.inj_on_of_nodup_map unique.workloads one other (by simp [hit, hit'])

theorem UniqueKeys.stored (unique : UniqueKeys db) (row : AgentWorkload)
    (listed : row ∈ db.agentWorkloads) (hit : isWorkloadOf organizationId userId row = true) :
    storedWorkload db organizationId userId = some row := by
  cases found : storedWorkload db organizationId userId with
  | none =>
    have missing := List.find?_eq_none.mp found row listed
    exact absurd hit missing
  | some other =>
    rw [unique.workload_eq (List.mem_of_find?_eq_some found) listed (List.find?_some found) hit]

theorem UniqueKeys.workloadOf (unique : UniqueKeys db) :
    workloadOf (db.agentWorkloads.filter fun row => row.organizationId == organizationId) userId =
      storedWorkload db organizationId userId := by
  unfold Tickets.workloadOf
  cases found : (db.agentWorkloads.filter fun row =>
      row.organizationId == organizationId).reverse.find? fun row => row.userId == userId with
  | none =>
    symm
    rw [storedWorkload, List.find?_eq_none]
    intro row listed hit
    rw [isWorkloadOf_iff] at hit
    have missing := List.find?_eq_none.mp found row
      (List.mem_reverse.mpr (List.mem_filter.mpr ⟨listed, by simpa using hit.2⟩))
    exact missing (by simpa using hit.1)
  | some row =>
    obtain ⟨listed, here⟩ :=
      List.mem_filter.mp (List.mem_reverse.mp (List.mem_of_find?_eq_some found))
    have theirs := List.find?_some found
    exact (unique.stored row listed (by simp_all [isWorkloadOf])).symm

end Rows

def Timely (locale : Locale) (met : List World) (state reached : World) : Prop :=
  -- A workload that a step changes is of this day and this week, and it is as the call has read it,
  -- which is two statements before.
  ∀ organizationId userId,
    storedWorkload reached.db organizationId userId ≠
        storedWorkload state.db organizationId userId →
      (∀ row ∈ storedWorkload state.db organizationId userId,
        locale.startOfDay state.now ≤ row.lastDailyReset ∧
          locale.startOfWeek state.now ≤ row.lastWeeklyReset) ∧
      ∀ read ∈ met[1]?, storedWorkload state.db organizationId userId =
        storedWorkload read.db organizationId userId

def Kept (locale : Locale) : List World → Prop
  -- The limits have been kept to, over a time that is within one day and one week.
  | [] => True
  | world :: past =>
    Capped world.db ∧ ∀ earlier ∈ world :: past,
      UniqueKeys earlier.db ∧ earlier.db.memberships = world.db.memberships ∧
        locale.startOfDay earlier.now = locale.startOfDay world.now ∧
        locale.startOfWeek earlier.now = locale.startOfWeek world.now

section Kept

variable {locale : Locale} {world reached : World} {past : List World}

theorem Kept.next (kept : Kept locale (world :: past)) (capped : Capped reached.db)
    (unique : UniqueKeys reached.db) (memberships : reached.db.memberships = world.db.memberships)
    (day : locale.startOfDay reached.now = locale.startOfDay world.now)
    (week : locale.startOfWeek reached.now = locale.startOfWeek world.now) :
    Kept locale (reached :: world :: past) := by
  refine ⟨capped, fun earlier member => ?_⟩
  rcases List.mem_cons.mp member with rfl | before
  · exact ⟨unique, rfl, rfl, rfl⟩
  · obtain ⟨own, same, day', week'⟩ := kept.2 earlier before
    exact ⟨own, same.trans memberships.symm, day'.trans day.symm, week'.trans week.symm⟩

theorem Kept.samePeriod (kept : Kept locale (world :: past))
    (same : SamePeriod locale world reached) : Kept locale (reached :: world :: past) := by
  have unique := (kept.2 world (List.mem_cons_self ..)).1
  refine kept.next ?_ ⟨?_, ?_⟩ same.memberships same.day same.week
  · unfold Capped
    rw [same.memberships, same.workloads]
    exact kept.1
  · rw [same.memberships]
    exact unique.memberships
  · rw [same.workloads]
    exact unique.workloads

end Kept

structure HasRoom (membership : Membership) (stored : Option AgentWorkload) : Prop where
  day : ∀ cap ∈ membership.maxTicketsPerDay, (stored.map (·.assignedToday)).getD 0 < cap
  week : ∀ cap ∈ membership.maxTicketsPerWeek, (stored.map (·.assignedThisWeek)).getD 0 < cap

theorem hasRoom_of_eligible (locale : Locale) (membership : OrganizationMembership)
    (stored : Option AgentWorkload) (now : Nat)
    (dated : ∀ row ∈ stored, locale.startOfDay now ≤ row.lastDailyReset ∧
      locale.startOfWeek now ≤ row.lastWeeklyReset)
    (eligible : isEligibleForAutoAssignment locale membership stored now = true) :
    HasRoom membership.toMembership stored := by
  have effective : getEffectiveWorkload locale stored now =
      ⟨(stored.map (·.assignedToday)).getD 0, (stored.map (·.assignedThisWeek)).getD 0⟩ := by
    cases stored with
    | none => rfl
    | some row =>
      obtain ⟨day, week⟩ := dated row rfl
      simp [getEffectiveWorkload, day, week]
  simp only [isEligibleForAutoAssignment, effective, Bool.and_eq_true, Option.all_eq_true,
    decide_eq_true_eq] at eligible
  exact ⟨eligible.1, eligible.2⟩

section Counted

variable {db : Database} {organizationId userId now : Nat}

theorem counted_changes :
    storedWorkload (counted now organizationId userId db) organizationId userId ≠
      storedWorkload db organizationId userId := by
  unfold counted
  by_cases there : db.agentWorkloads.any (isWorkloadOf organizationId userId) = true
  · rw [if_pos there]
    have changed : storedWorkload (countOne organizationId userId db) organizationId userId =
        (storedWorkload db organizationId userId).map _ :=
      find?_changeWhere (isWorkloadOf organizationId userId) fun _ => rfl
    rw [changed]
    cases found : storedWorkload db organizationId userId with
    | none =>
      obtain ⟨row, listed, hit⟩ := List.any_eq_true.mp there
      exact absurd hit (List.find?_eq_none.mp found row listed)
    | some row =>
      intro same
      have hit := List.find?_some found
      rw [Option.map_some, if_pos hit, Option.some.injEq] at same
      have counts := congrArg AgentWorkload.assignedToday same
      simp at counts
  · rw [if_neg there]
    have absent : storedWorkload db organizationId userId = none := by
      rw [storedWorkload, List.find?_eq_none]
      simpa using there
    rw [absent]
    have none : db.agentWorkloads.find? (isWorkloadOf organizationId userId) = none := absent
    simp [storedWorkload, countFirst, none, isWorkloadOf]

theorem UniqueKeys.counted (unique : UniqueKeys db) :
    UniqueKeys (counted now organizationId userId db) := by
  unfold Tickets.counted
  by_cases there : db.agentWorkloads.any (isWorkloadOf organizationId userId) = true
  · rw [if_pos there]
    have keys : (countOne organizationId userId db).agentWorkloads.map
          (fun row => (row.userId, row.organizationId)) =
        db.agentWorkloads.map fun row => (row.userId, row.organizationId) :=
      map_changeWhere _ fun _ => rfl
    exact ⟨unique.memberships, keys ▸ unique.workloads⟩
  · rw [if_neg there]
    refine ⟨unique.memberships, ?_⟩
    simp only [countFirst, List.map_append, List.nodup_append]
    refine ⟨unique.workloads, by simp, ?_⟩
    rintro key old other new rfl
    obtain ⟨row, listed, rfl⟩ := List.mem_map.mp old
    refine there (List.any_eq_true.mpr ⟨row, listed, ?_⟩)
    simpa [isWorkloadOf] using new

theorem Capped.counted (capped : Capped db) (unique : UniqueKeys db) (membership : Membership)
    (listed : membership ∈ db.memberships) (holder : membership.userId = userId)
    (place : membership.organizationId = organizationId)
    (room : HasRoom membership (storedWorkload db organizationId userId)) :
    Capped (counted now organizationId userId db) := by
  -- The membership of a row of the key is the one that has room.
  have only : ∀ other ∈ db.memberships, ∀ row : AgentWorkload,
      isWorkloadOf organizationId userId row = true →
      isWorkloadOf other.organizationId other.userId row = true → other = membership := by
    intro other member row hit own
    rw [isWorkloadOf_iff] at hit own
    exact List.inj_on_of_nodup_map unique.memberships member listed
      (by simp [holder, place, ← hit.1, ← hit.2, own.1, own.2])
  have rows := (counted_rows now organizationId userId db).2.2.2.2.1
  intro other member row row_listed own
  rw [rows] at member
  unfold Tickets.counted at row_listed
  by_cases there : db.agentWorkloads.any (isWorkloadOf organizationId userId) = true
  · rw [if_pos there] at row_listed
    rcases mem_changeWhere.mp row_listed with ⟨old, -⟩ | ⟨old, old_listed, hit, rfl⟩
    · exact capped other member row old own
    · have same := only other member old hit own
      subst same
      rw [unique.stored old old_listed hit] at room
      exact ⟨fun cap given => room.day cap given, fun cap given => room.week cap given⟩
  · rw [if_neg there] at row_listed
    rcases List.mem_append.mp row_listed with old | new
    · exact capped other member row old own
    · rw [List.mem_singleton.mp new] at own ⊢
      have same := only other member _ (by simp [isWorkloadOf]) own
      subst same
      have absent : storedWorkload db organizationId userId = none := by
        rw [storedWorkload, List.find?_eq_none]
        simpa using there
      rw [absent] at room
      exact ⟨fun cap given => room.day cap given, fun cap given => room.week cap given⟩

end Counted

section Statements

variable {locale : Locale} {met seen : List World}

/-- An agent whom the call has found eligible, on workloads it read in the state before the one
it has looked at the clock in. -/
structure Chosen (locale : Locale) (organizationId userId : Nat) (met seen : List World) : Prop where
  found : ∃ looked read rest, met = looked :: read :: rest ∧ looked ∈ seen ∧ read ∈ seen ∧
    ∃ membership : OrganizationMembership,
      (∃ earlier ∈ seen, membership.toMembership ∈ earlier.db.memberships) ∧
      membership.userId = userId ∧ membership.organizationId = organizationId ∧
      isEligibleForAutoAssignment locale membership
        (workloadOf (read.db.agentWorkloads.filter fun row =>
          row.organizationId == organizationId) userId) looked.now = true

theorem autoAssignTicket_kept (ticketId organizationId userId : Nat)
    (chosen : Chosen locale organizationId userId met seen) :
    (autoAssignTicket locale.showId ticketId organizationId userId).UpholdsWhere (Kept locale)
      (Timely locale) Program.anyEnd met seen := by
  refine UpholdsWhere.transaction ?_ fun world past failure _ kept =>
    ⟨kept.samePeriod ⟨rfl, rfl, rfl, rfl⟩, trivial⟩
  intro world past assigned reached grown kept timely ran
  obtain ⟨ticket, -, rfl⟩ :=
    autoAssignTicket_ok _ _ _ _ _ ((Program.transaction_ok ..).mpr ran)
  obtain ⟨looked, read, rest, rfl, lookedSeen, readSeen, membership, ⟨earlier, before, listed⟩,
    holder, place, eligible⟩ := chosen.found
  obtain ⟨-, _, day, week⟩ := kept.2 looked (grown.subset lookedSeen)
  obtain ⟨readUnique, -, -, -⟩ := kept.2 read (grown.subset readSeen)
  obtain ⟨-, memberships, -, -⟩ := kept.2 earlier (grown.subset before)
  have unique := (kept.2 world (List.mem_cons_self ..)).1
  -- What the call has read is what the transaction finds.
  obtain ⟨dated, same⟩ := timely organizationId userId counted_changes
  have fresh := same read rfl
  rw [readUnique.workloadOf, ← fresh] at eligible
  have room := hasRoom_of_eligible locale membership _ looked.now
    (by rw [day, week]; exact dated) eligible
  have capped : Capped (counted world.now organizationId userId world.db) :=
    kept.1.counted unique membership.toMembership (memberships ▸ listed) holder place room
  have unique' : UniqueKeys (counted world.now organizationId userId world.db) := unique.counted
  have rows := (counted_rows world.now organizationId userId world.db).2.2.2.2.1
  exact ⟨kept.next capped ⟨unique'.memberships, unique'.workloads⟩ rows rfl rfl, trivial⟩

abbrev Aside {α : Type} (locale : Locale) (program : Call α) : Prop :=
  -- A statement that leaves alone what the limits are about.
  program.Each fun change world => SamePeriod locale world (change world)

theorem SamePeriod.refl (locale : Locale) (world : World) : SamePeriod locale world world :=
  ⟨rfl, rfl, rfl, rfl⟩

theorem Aside.upholdsWhere {α : Type} {program : Call α} (aside : Aside locale program) :
    program.UpholdsWhere (Kept locale) (Timely locale) Program.anyEnd met seen :=
  Each.upholdsWhere aside (fun _ _ _ same kept => kept.samePeriod same) met seen

variable (organizationId : Nat) (userId : Nat)

theorem getTicketOrganizationMembership_aside :
    Aside locale (Org.getTicketOrganizationMembership organizationId userId) := by
  unfold Org.getTicketOrganizationMembership
  refine (Each.reads fun world => SamePeriod.refl locale world).bind fun cached => ?_
  cases cached with
  | some copy => exact Each.pure _
  | none =>
    refine (Each.reads fun world => SamePeriod.refl locale world).bind fun membership => ?_
    cases membership with
    | none => exact Each.pure _
    | some copy => exact (Each.modify fun world => ⟨rfl, rfl, rfl, rfl⟩).bind fun _ => Each.pure _

theorem memberOf_aside (message : String) : Aside locale (memberOf organizationId userId message) :=
  (getTicketOrganizationMembership_aside organizationId userId).bind fun _ => Each.orFail

theorem admitted_aside (ticketId userId : Nat) (message : String)
    (allowed : OrgRole → Ticket → Bool) :
    Aside locale (admitted ticketId userId message allowed) := by
  refine Each.bind ((Each.reads fun world => SamePeriod.refl locale world).bind fun _ =>
    Each.orFail) fun ticket => ?_
  refine (memberOf_aside _ _ _).bind fun membership => ?_
  exact Each.require.bind fun _ => Each.pure _

theorem validateTicketAssignee_aside (assignedToId : Option Nat) :
    Aside locale (validateTicketAssignee organizationId assignedToId) := by
  cases assignedToId with
  | none => exact Each.pure _
  | some assignedToId =>
    exact (getTicketOrganizationMembership_aside _ _).bind fun _ => Each.require

variable (data : TicketData)

theorem createTicket_aside (createdById : Nat) : Aside locale (createTicket data createdById) := by
  refine Each.attempt (SamePeriod.refl locale) fun world value reached outcome => ?_
  dsimp only at outcome
  split_ifs at outcome
  cases outcome
  exact ⟨rfl, rfl, rfl, rfl⟩

theorem findBestAutoAssignAgent_kept :
    (findBestAutoAssignAgent locale organizationId).UpholdsWhere (Kept locale) (Timely locale)
      (fun met seen result => ∀ userId, result = .ok (some userId) →
        Chosen locale organizationId userId met seen) met seen := by
  unfold findBestAutoAssignAgent getOrganizationAvailableAgents getOrganizationAgentWorkloads
  intro first past _ kept _
  refine ⟨kept.samePeriod (.refl locale first), ?_⟩
  intro read past' grown' kept' _
  refine ⟨kept'.samePeriod (.refl locale read), ?_⟩
  intro looked past'' grown'' kept'' _
  refine ⟨kept''.samePeriod (.refl locale looked), ?_⟩
  intro userId same
  obtain ⟨agent, first_, rfl⟩ := Option.map_eq_some_iff.mp (Except.ok.inj same)
  have among := List.mem_of_mem_head? (Option.mem_def.mpr first_)
  rw [eligibleAgents, List.mem_insertionSort, List.mem_filter] at among
  obtain ⟨available, eligible⟩ := among
  obtain ⟨membership, sorted, joined⟩ := List.mem_filterMap.mp available
  rw [byCreatedAt, List.mem_insertionSort, List.mem_filter] at sorted
  obtain ⟨listed, here⟩ := sorted
  obtain ⟨⟨stored, -⟩, rfl⟩ := Database.shows_of_withRole first.db membership agent listed joined
  simp only [Bool.and_eq_true, beq_iff_eq] at here
  have firstSeen : first ∈ looked :: looked :: past'' :=
    List.mem_cons_of_mem _ (grown''.subset
      (List.mem_cons_of_mem _ (grown'.subset (List.mem_cons_self ..))))
  have readSeen : read ∈ looked :: looked :: past'' :=
    List.mem_cons_of_mem _ (grown''.subset (List.mem_cons_self ..))
  exact ⟨looked, read, _, rfl, List.mem_cons_self .., readSeen, agent, ⟨first, firstSeen, stored⟩,
    rfl, here.1.1, eligible⟩

theorem autoAssignTicketForOrganization_kept (ticket : Ticket) :
    (autoAssignTicketForOrganization locale ticket).UpholdsWhere (Kept locale) (Timely locale)
      Program.anyEnd met seen := by
  unfold autoAssignTicketForOrganization
  refine UpholdsWhere.bind (findBestAutoAssignAgent_kept ticket.organizationId) ?_
    fun _ _ _ _ _ => trivial
  intro found met later _ chosen
  cases found with
  | none => trivial
  | some userId => exact autoAssignTicket_kept _ _ _ (chosen userId rfl)

theorem createTicketService_kept (userId : Nat) :
    (createTicketService locale data userId).UpholdsWhere (Kept locale) (Timely locale)
      Program.anyEnd met seen := by
  unfold createTicketService
  refine UpholdsWhere.bind (memberOf_aside _ _ _).upholdsWhere ?_ fun _ _ _ _ _ => trivial
  intro _ met later _ _
  refine UpholdsWhere.bind (validateTicketAssignee_aside _ _).upholdsWhere ?_
    fun _ _ _ _ _ => trivial
  intro _ met later _ _
  refine UpholdsWhere.bind (createTicket_aside _ _).upholdsWhere ?_ fun _ _ _ _ _ => trivial
  intro ticket met later _ _
  have emitted : Aside locale (emitTicketEvent
      { name := .created
        ticketId := ticket.id
        organizationId := ticket.organizationId
        actorId := userId
        metadata := { title := some ticket.title } }) := Each.modify fun world => ⟨rfl, rfl, rfl, rfl⟩
  refine UpholdsWhere.bind emitted.upholdsWhere ?_ fun _ _ _ _ _ => trivial
  intro _ met later _ _
  split
  · trivial
  · have assigned : (do
          let assigned ← autoAssignTicketForOrganization locale ticket.toTicket
          return .assigned assigned : Call CreatedTicket).UpholdsWhere (Kept locale)
        (Timely locale) Program.anyEnd met later :=
      UpholdsWhere.bind (autoAssignTicketForOrganization_kept _) (fun _ _ _ _ _ => trivial)
        fun _ _ _ _ _ => trivial
    refine assigned.recover (fun _ _ _ _ _ => trivial) fun failure met later _ _ => ?_
    split
    · trivial
    · trivial

theorem autoAssignTicketService_kept (ticketId userId : Nat) :
    (autoAssignTicketService locale ticketId userId).UpholdsWhere (Kept locale) (Timely locale)
      Program.anyEnd met seen := by
  unfold autoAssignTicketService
  refine UpholdsWhere.bind (admitted_aside _ _ _ _).upholdsWhere ?_ fun _ _ _ _ _ => trivial
  intro found met later _ _
  exact autoAssignTicketForOrganization_kept found.1.toTicket

end Statements

inductive AssigningCall where
  | createTicket (ticketData : TicketData) (userId : Nat)
  | autoAssignTicket (ticketId userId : Nat)
  deriving DecidableEq

def AssigningCall.program (locale : Locale) : AssigningCall → Call Unit
  | createTicket ticketData userId => do
    let _ ← createTicketService locale ticketData userId
    pure ()
  | autoAssignTicket ticketId userId => do
    let _ ← autoAssignTicketService locale ticketId userId
    pure ()

def assigningCalls (locale : Locale) :
    Pool.System (AssigningCall × Nat) World (Watched World ServiceError Unit) :=
  Pool.watching (fun _ call program => program = call.1.program locale) (SamePeriod locale)

theorem call_kept (locale : Locale) (call : AssigningCall) (seen : List World) :
    (call.program locale).UpholdsWhere (Kept locale) (Timely locale) Program.anyEnd [] seen := by
  cases call with
  | createTicket data userId =>
    exact UpholdsWhere.bind (createTicketService_kept data userId) (fun _ _ _ _ _ => trivial)
      fun _ _ _ _ _ => trivial
  | autoAssignTicket ticketId userId =>
    exact UpholdsWhere.bind (autoAssignTicketService_kept ticketId userId)
      (fun _ _ _ _ _ => trivial) fun _ _ _ _ _ => trivial

/-- In every run of interleaved calls within one day and one week where an agent's workload,
dated in them, is counted up only as the counting call has read it, all limits are kept to. -/
theorem caps_hold (locale : Locale) (start : World) (capped : Capped start.db)
    (unique : UniqueKeys start.db)
    (pool : Pool (AssigningCall × Nat) World (Watched World ServiceError Unit))
    (run : Pool.Run (assigningCalls locale) (Pool.permitting fun _ => Timely locale)
      (Pool.idle start) pool) :
    Capped pool.state.db := by
  have before : Kept locale [start] := by
    refine ⟨capped, fun earlier member => ?_⟩
    rw [List.mem_singleton.mp member]
    exact ⟨unique, rfl, rfl, rfl⟩
  have kept : Kept locale pool.seen := by
    refine Pool.Run.upheldWhere (fun _ _ _ kept same => kept.samePeriod same) ?_ run before
    rintro seen call _ _ rfl
    exact call_kept locale call.1 seen
  exact kept.1

def soleAgent : Membership :=
  { id := 4, userId := 1, organizationId := 2, roleId := 3, maxTicketsPerDay := some 1 }

def smallDesk : World where
  db :=
    { users := [{ id := 1, email := "agent@a.example", password := "" }]
      organizations := [{ id := 2, name := "A" }]
      orgRoles := [{ id := 3, name := "AGENT", organizationId := 2, permissions := [], level := 50 }]
      memberships := [soleAgent]
      nextId := 5 }
  now := wednesday

def opening : AssigningCall := .createTicket { organizationId := 2, title := "Printer" } 1

def openings (turns : List Nat) : Pool (AssigningCall × Nat) World (Watched World ServiceError Unit) :=
  -- The calls are told apart by their numbers, and take their turns in the order given.
  Pool.play Watched.advance (fun call => { program := call.1.program (zone 0) })
    (turns.map fun number => .turn (opening, number)) (Pool.idle smallDesk)

theorem smallDesk_capped : Capped smallDesk.db := nofun

theorem smallDesk_unique : UniqueKeys smallDesk.db := ⟨by decide, by decide⟩

theorem openings_run
    (allowed : Pool (AssigningCall × Nat) World (Watched World ServiceError Unit) →
      AssigningCall × Nat → Watched World ServiceError Unit → Prop) (turns : List Nat)
    (permitted : Pool.Permits allowed Watched.advance
      (fun call => { program := call.1.program (zone 0) })
      (turns.map fun number => .turn (opening, number)) (Pool.idle smallDesk)) :
    Pool.Run (assigningCalls (zone 0)) allowed (Pool.idle smallDesk) (openings turns) := by
  refine Pool.play_runs _ ?_ (by simp) _ permitted
  intro call _ seen
  exact ⟨rfl, rfl⟩

def uncounted (pool : Pool (AssigningCall × Nat) World (Watched World ServiceError Unit))
    (call : AssigningCall × Nat) : Bool :=
  -- Nothing has been counted when the call makes its step, nor when it made its earlier ones.
  pool.state.db.agentWorkloads.isEmpty &&
    (pool.calls call).all fun watched => watched.met.all fun read => read.db.agentWorkloads.isEmpty

theorem permitting_of_uncounted
    (pool : Pool (AssigningCall × Nat) World (Watched World ServiceError Unit))
    (call : AssigningCall × Nat) (nothing : uncounted pool call = true)
    (watched : Watched World ServiceError Unit) (running : pool.calls call = some watched) :
    Pool.permitting (fun _ => Timely (zone 0)) pool call watched := by
  simp only [uncounted, running, Option.all_some, Bool.and_eq_true, List.isEmpty_iff,
    List.all_eq_true] at nothing
  obtain ⟨now, before⟩ := nothing
  intro next reached _ organizationId userId _
  have absent : storedWorkload pool.state.db organizationId userId = none := by
    simp [storedWorkload, now]
  refine ⟨by simp [absent], fun read met => ?_⟩
  rw [absent]
  simp [storedWorkload, before read (List.mem_of_getElem? met)]

theorem opening_capped : Capped (openings (List.replicate 10 0)).state.db := by
  refine caps_hold (zone 0) smallDesk smallDesk_capped smallDesk_unique _ (openings_run _ _ ?_)
  rw [List.map_replicate]
  refine Pool.permits_turns (opening, 0) 10 _ fun before earlier => ?_
  refine permitting_of_uncounted _ _ ?_
  have nothing : ∀ before < 10, uncounted (Pool.play Watched.advance
      (fun call => { program := call.1.program (zone 0) })
      (List.replicate before (.turn (opening, 0))) (Pool.idle smallDesk)) (opening, 0) = true := by
    decide +kernel
  exact nothing before earlier

def overlapping : List Nat := List.replicate 9 0 ++ List.replicate 7 1 ++ [0, 1]

/-- Both calls read that the agent has no assignment before either is counted. -/
theorem second_opening_exceeds :
    Capped smallDesk.db ∧ UniqueKeys smallDesk.db ∧
      Pool.Run (assigningCalls (zone 0)) Pool.anyStatement (Pool.idle smallDesk)
        (openings overlapping) ∧
      ¬ Capped (openings overlapping).state.db := by
  refine ⟨smallDesk_capped, smallDesk_unique, openings_run _ _ (Pool.permits_any ..), ?_⟩
  intro capped
  have within := capped soleAgent (by decide +kernel)
    { userId := 1
      organizationId := 2
      assignedToday := 2
      assignedThisWeek := 2
      lastDailyReset := wednesday
      lastWeeklyReset := wednesday } (by decide +kernel) rfl
  exact absurd (within.day 1 rfl) (by decide)

end HelpForge.Tickets
