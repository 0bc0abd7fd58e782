import HelpForge.Automation.Service
import HelpForge.Lib.Least

set_option autoImplicit false

namespace HelpForge.Automation

open Lib Tickets

section Availability

variable (db : Database) (organizationId : Nat)

def AvailableIn (userId : Nat) : Prop :=
  -- In the organisation itself: a membership that is available, with a role that lets its agent
  -- change that.
  ∃ membership ∈ db.memberships, membership.organizationId = organizationId ∧
    membership.userId = userId ∧ membership.isAvailable = true ∧
    ∃ role, db.findOrgRole membership.roleId = some role ∧
      Permission.agentUpdateAvailability ∈ role.permissions

/-- The agent may take the organisation's tickets, and none who may is less busy. -/
structure FitsOrganization (agent : AgentWorkload) : Prop where
  available : AvailableIn db organizationId agent.userId
  least : ∀ other ∈ db.agentWorkloads, other.organizationId = organizationId →
    AvailableIn db organizationId other.userId → agent.assignedToday ≤ other.assignedToday

structure Stranger (row : AgentWorkload) : Prop where
  here : row.organizationId = organizationId
  available : isAvailableAgent db row.userId = true
  elsewhere : ¬AvailableIn db organizationId row.userId

def StrangersOutranked : Prop :=
  -- Before each stranger comes an agent of the organisation who is no busier, or after it one who
  -- is less busy.
  ∀ before stranger after, db.agentWorkloads = before ++ stranger :: after →
    Stranger db organizationId stranger →
      (∃ agent ∈ before, agent.organizationId = organizationId ∧
        AvailableIn db organizationId agent.userId ∧
        agent.assignedToday ≤ stranger.assignedToday) ∨
      ∃ agent ∈ after, agent.organizationId = organizationId ∧
        AvailableIn db organizationId agent.userId ∧
        agent.assignedToday < stranger.assignedToday

variable {db organizationId}

theorem AvailableIn.somewhere {userId : Nat} (available : AvailableIn db organizationId userId) :
    isAvailableAgent db userId = true := by
  obtain ⟨membership, member, -, owner, now, role, found, allowed⟩ := available
  rw [isAvailableAgent, List.any_eq_true]
  exact ⟨membership, member, by simp [owner, now, found, allowed]⟩

end Availability

section Choice

variable (state : AutomationWorld) (ticket : Ticket)

def Chooses (agent : AgentWorkload) : Prop :=
  -- The agent that the automation chooses for the ticket.
  ∃ agents, (getAvailableAgents ticket.organizationId).run state = (.ok agents, state) ∧
    selectBestAgent agents = some agent

def listsAgent (workload : AgentWorkload) : Bool :=
  workload.organizationId == ticket.organizationId && isAvailableAgent state.db workload.userId

theorem getAvailableAgents_run (up : state.down .database = false) :
    (getAvailableAgents ticket.organizationId).run state =
      (.ok (state.db.agentWorkloads.filter (listsAgent state ticket)), state) := by
  simp only [getAvailableAgents, query, statement, Program.run_attempt, up, Bool.false_eq_true,
    if_false, Except.map]
  rfl

theorem chooses_iff (up : state.down .database = false) (agent : AgentWorkload) :
    Chooses state ticket agent ↔
      ∃ before after, state.db.agentWorkloads = before ++ agent :: after ∧
        listsAgent state ticket agent = true ∧
        (∀ other ∈ before, listsAgent state ticket other = true →
          agent.assignedToday < other.assignedToday) ∧
        ∀ other ∈ after, listsAgent state ticket other = true →
          agent.assignedToday ≤ other.assignedToday := by
  -- It is the first of the least busy.
  have read := getAvailableAgents_run state ticket up
  rw [Chooses, ← firstLeast_filter (fun row : AgentWorkload => row.assignedToday),
    ← firstLeast_insertionSort _ _ fun left right => Iff.rfl]
  constructor
  · rintro ⟨agents, listed, selected⟩
    rw [read] at listed
    cases listed
    exact selected
  · exact fun selected => ⟨_, read, selected⟩

theorem listsAgent_iff (row : AgentWorkload) :
    listsAgent state ticket row = true ↔
      row.organizationId = ticket.organizationId ∧ isAvailableAgent state.db row.userId = true := by
  simp [listsAgent]

theorem handleSmartAssign_chooses (agent : AgentWorkload) (chosen : Chooses state ticket agent) :
    (handleSmartAssign ticket).run state =
      (.ok (), ((updateTicket ticket.id
        { assignedToId := some agent.userId, status := some .inProgress }).run state).2) := by
  -- Whom the automation chooses, it assigns the ticket to, unless the write fails.
  obtain ⟨agents, listed, selected⟩ := chosen
  rw [handleSmartAssign, Program.run_recover, Program.run_bind, listed]
  simp only [selected, Program.run_bind]
  rcases written : (updateTicket ticket.id
    { assignedToId := some agent.userId, status := some .inProgress }).run state with
    ⟨failure | row, reached⟩ <;> rfl

end Choice

section Law

variable (state : AutomationWorld) (ticket : Ticket)

theorem chosen_fits (agent : AgentWorkload) (up : state.down .database = false)
    (outranked : StrangersOutranked state.db ticket.organizationId)
    (chosen : Chooses state ticket agent) :
    FitsOrganization state.db ticket.organizationId agent := by
  obtain ⟨before, after, rows, listed, less, least⟩ := (chooses_iff state ticket up agent).mp chosen
  obtain ⟨here, available⟩ := (listsAgent_iff ..).mp listed
  constructor
  · by_contra elsewhere
    -- An agent of the organisation would have been chosen before.
    rcases outranked before agent after rows ⟨here, available, elsewhere⟩ with
      ⟨other, among, same, theirs, busy⟩ | ⟨other, among, same, theirs, busy⟩
    · have more := less other among ((listsAgent_iff ..).mpr ⟨same, theirs.somewhere⟩)
      omega
    · have more := least other among ((listsAgent_iff ..).mpr ⟨same, theirs.somewhere⟩)
      omega
  · intro other among same theirs
    have lists := (listsAgent_iff state ticket other).mpr ⟨same, theirs.somewhere⟩
    rw [rows] at among
    rcases List.mem_append.mp among with early | late
    · exact (less other early lists).le
    · rcases List.mem_cons.mp late with rfl | late
      · exact le_rfl
      · exact least other late lists

theorem chooses_somebody (up : state.down .database = false) (row : AgentWorkload)
    (among : row ∈ state.db.agentWorkloads) (lists : listsAgent state ticket row = true) :
    ∃ agent, Chooses state ticket agent := by
  cases selected : selectBestAgent (state.db.agentWorkloads.filter (listsAgent state ticket)) with
  | none =>
    rw [selectBestAgent, head?_insertionSort_none, List.filter_eq_nil_iff] at selected
    exact absurd lists (selected row among)
  | some agent => exact ⟨agent, _, getAvailableAgents_run state ticket up, selected⟩

theorem outranked_of_fits (up : state.down .database = false)
    (fits : ∀ agent, Chooses state ticket agent →
      FitsOrganization state.db ticket.organizationId agent) :
    StrangersOutranked state.db ticket.organizationId := by
  intro before stranger after rows strange
  have lists := (listsAgent_iff state ticket stranger).mpr ⟨strange.here, strange.available⟩
  obtain ⟨agent, chosen⟩ := chooses_somebody state ticket up stranger (by simp [rows]) lists
  have theirs := (fits agent chosen).available
  obtain ⟨front, rest, split, listed, less, least⟩ := (chooses_iff state ticket up agent).mp chosen
  have here := ((listsAgent_iff ..).mp listed).1
  have other : agent ≠ stranger := by
    rintro rfl
    exact strange.elsewhere theirs
  rw [rows] at split
  rcases List.append_eq_append_iff.mp split with ⟨between, rfl, later⟩ | ⟨between, rfl, later⟩
  · right
    cases between with
    | nil => exact absurd (List.cons.inj later).1.symm other
    | cons head between =>
      obtain ⟨rfl, rfl⟩ := List.cons.inj later
      exact ⟨agent, by simp, here, theirs, less stranger (by simp) lists⟩
  · left
    cases between with
    | nil => exact absurd (List.cons.inj later).1 other
    | cons head between =>
      obtain ⟨rfl, rfl⟩ := List.cons.inj later
      exact ⟨agent, by simp, here, theirs, least stranger (by simp) lists⟩

/-- The choice stays within the organisation where no stranger comes first. -/
theorem smart_assignment_fits_iff :
    (∀ agent, Chooses state ticket agent →
      FitsOrganization state.db ticket.organizationId agent) ↔
    (state.down .database = false → StrangersOutranked state.db ticket.organizationId) := by
  refine ⟨fun fits up => outranked_of_fits state ticket up fits, fun outranked agent chosen => ?_⟩
  cases up : state.down .database with
  | false => exact chosen_fits state ticket agent up (outranked up) chosen
  | true =>
    -- Nobody is chosen while the database is down.
    obtain ⟨agents, listed, -⟩ := chosen
    simp [getAvailableAgents, query, statement, Program.run_attempt, up] at listed

end Law

def agentRole (id organizationId : Nat) : OrgRole where
  id := id
  organizationId
  name := "AGENT"
  level := 50
  isSystem := true
  permissions := [.agentUpdateAvailability]

def pressingTicket : Ticket where
  id := 10
  organizationId := 1
  title := "Help"
  createdById := 2

/-- User 3 is off duty in organisation 1, and on duty in organisation 2. -/
def offDuty : AutomationWorld where
  db :=
    { users := [{ id := 2, email := "author@example.org", password := "" },
        { id := 3, email := "agent@example.org", password := "" }]
      organizations := [{ id := 1, name := "A" }, { id := 2, name := "B" }]
      orgRoles := [agentRole 4 1, agentRole 5 2]
      memberships :=
        [{ id := 6, userId := 3, organizationId := 1, roleId := 4, isAvailable := false },
          { id := 7, userId := 3, organizationId := 2, roleId := 5, isAvailable := true }]
      agentWorkloads :=
        [{ userId := 3, organizationId := 1, assignedToday := 1, assignedThisWeek := 1
           lastDailyReset := 0, lastWeeklyReset := 0 }]
      tickets := [pressingTicket]
      nextId := 11 }

theorem assigned_off_duty :
    (∃ reached, (handleSmartAssign pressingTicket).run offDuty = (.ok (), reached) ∧
      (reached.db.findTicket 10).bind (·.assignedToId) = some 3) ∧
    ¬AvailableIn offDuty.db 1 3 := by
  refine ⟨⟨_, handleSmartAssign_chooses offDuty pressingTicket _ ⟨_, rfl, rfl⟩, ?_⟩, ?_⟩
  · decide +kernel
  · rintro ⟨membership, member, here, -, now, -⟩
    rcases List.mem_cons.mp member with rfl | member
    · exact Bool.noConfusion now
    · rw [List.mem_singleton.mp member] at here
      exact absurd here (by decide)

end HelpForge.Automation
