import HelpForge.Lib.Least
import HelpForge.Tickets.Repo
import Mathlib.Data.Prod.Lex

set_option autoImplicit false

namespace HelpForge.Tickets

open Lib

/-- What the server makes of dates: the beginning of the day and of the week of an instant, and
how an identifier is written. -/
structure Locale where
  startOfDay : Nat → Nat
  startOfWeek : Nat → Nat
  showId : Nat → String := toString

structure EffectiveWorkload where
  assignedToday : Nat
  assignedThisWeek : Nat
  deriving DecidableEq, Repr

section AutoAssign

variable (locale : Locale)

def getEffectiveWorkload (workload : Option AgentWorkload) (now : Nat) : EffectiveWorkload :=
  match workload with
  | none => { assignedToday := 0, assignedThisWeek := 0 }
  | some workload =>
    { assignedToday :=
        if locale.startOfDay now ≤ workload.lastDailyReset then workload.assignedToday else 0
      assignedThisWeek :=
        if locale.startOfWeek now ≤ workload.lastWeeklyReset then workload.assignedThisWeek
        else 0 }

def isEligibleForAutoAssignment (membership : OrganizationMembership)
    (workload : Option AgentWorkload) (now : Nat) : Bool :=
  let effective := getEffectiveWorkload locale workload now
  membership.maxTicketsPerDay.all (effective.assignedToday < ·) &&
    membership.maxTicketsPerWeek.all (effective.assignedThisWeek < ·)

/-- `workloadMap.get`; of several rows for a user the last has replaced the others. -/
def workloadOf (workloads : List AgentWorkload) (userId : Nat) : Option AgentWorkload :=
  workloads.reverse.find? fun workload => workload.userId == userId

def loadedNoMore (workloads : List AgentWorkload) (now : Nat)
    (left right : OrganizationMembership) : Bool :=
  let leftWorkload := getEffectiveWorkload locale (workloadOf workloads left.userId) now
  let rightWorkload := getEffectiveWorkload locale (workloadOf workloads right.userId) now
  leftWorkload.assignedToday < rightWorkload.assignedToday ||
    (leftWorkload.assignedToday == rightWorkload.assignedToday &&
      leftWorkload.assignedThisWeek ≤ rightWorkload.assignedThisWeek)

def eligibleAgents (agents : List OrganizationMembership) (workloads : List AgentWorkload)
    (now : Nat) : List OrganizationMembership :=
  -- The agents below their limits; the least loaded comes first, and the first of several.
  (agents.filter fun membership =>
    isEligibleForAutoAssignment locale membership (workloadOf workloads membership.userId)
      now).insertionSort fun left right => loadedNoMore locale workloads now left right = true

def findBestAutoAssignAgent (organizationId : Nat) : Call (Option Nat) := do
  let agents ← getOrganizationAvailableAgents organizationId
  let workloads ← getOrganizationAgentWorkloads organizationId
  let now ← Program.reads World.now
  return (eligibleAgents locale agents workloads now).head?.map fun agent => agent.userId

def noAgentAvailable : ServiceError :=
  .api 422 "No available agent found for auto-assignment" "NO_AGENT_AVAILABLE"

def autoAssignTicketForOrganization (ticket : Ticket) : Call HydratedTicket := do
  let autoAssignedUserId ← findBestAutoAssignAgent locale ticket.organizationId
  let autoAssignedUserId ← Program.orFail autoAssignedUserId noAgentAvailable
  autoAssignTicket locale.showId ticket.id ticket.organizationId autoAssignedUserId

end AutoAssign

/-! ### The least loaded agent

Whom the automatic assignment picks: of the agents below their limits, one with the fewest
assignments of the day, then of the week, and the one who has been a member for longest of
several.
-/

section LeastLoaded

variable (locale : Locale) (workloads : List AgentWorkload) (now : Nat)

def effectiveOf (userId : Nat) : EffectiveWorkload :=
  getEffectiveWorkload locale (workloadOf workloads userId) now

def load (agent : OrganizationMembership) : Nat ×ₗ Nat :=
  -- The assignments of today count first, then those of the week.
  toLex ((effectiveOf locale workloads now agent.userId).assignedToday,
    (effectiveOf locale workloads now agent.userId).assignedThisWeek)

structure BelowCaps (agent : OrganizationMembership) : Prop where
  daily : ∀ cap ∈ agent.maxTicketsPerDay,
    (effectiveOf locale workloads now agent.userId).assignedToday < cap
  weekly : ∀ cap ∈ agent.maxTicketsPerWeek,
    (effectiveOf locale workloads now agent.userId).assignedThisWeek < cap

def LeastLoaded (agents : List OrganizationMembership) (userId : Nat) : Prop :=
  -- The user of the first agent below the limits whose load is least.
  ∃ before chosen after, agents = before ++ chosen :: after ∧ chosen.userId = userId ∧
    BelowCaps locale workloads now chosen ∧
    (∀ other ∈ before, BelowCaps locale workloads now other →
      load locale workloads now chosen < load locale workloads now other) ∧
    ∀ other ∈ after, BelowCaps locale workloads now other →
      load locale workloads now chosen ≤ load locale workloads now other

/-- Nobody where all have reached a limit, and the least loaded of the others else. -/
structure BestChoice (agents : List OrganizationMembership) (chosen : Option Nat) : Prop where
  nobody : chosen = none ↔ ∀ agent ∈ agents, ¬BelowCaps locale workloads now agent
  somebody : ∀ userId, chosen = some userId ↔ LeastLoaded locale workloads now agents userId

theorem eligible_iff (agent : OrganizationMembership) :
    isEligibleForAutoAssignment locale agent (workloadOf workloads agent.userId) now = true ↔
      BelowCaps locale workloads now agent := by
  simp only [isEligibleForAutoAssignment, Bool.and_eq_true, Option.all_eq_true, decide_eq_true_eq]
  exact ⟨fun ⟨daily, weekly⟩ => ⟨daily, weekly⟩, fun below => ⟨below.daily, below.weekly⟩⟩

theorem loadedNoMore_iff (left right : OrganizationMembership) :
    loadedNoMore locale workloads now left right = true ↔
      load locale workloads now left ≤ load locale workloads now right := by
  -- The comparison of the sort is that of the loads.
  simp [loadedNoMore, load, effectiveOf, Prod.Lex.le_iff]

variable (agents : List OrganizationMembership)

theorem eligibleAgents_head (chosen : OrganizationMembership) :
    (eligibleAgents locale agents workloads now).head? = some chosen ↔
      ∃ before after, agents = before ++ chosen :: after ∧ BelowCaps locale workloads now chosen ∧
        (∀ other ∈ before, BelowCaps locale workloads now other →
          load locale workloads now chosen < load locale workloads now other) ∧
        ∀ other ∈ after, BelowCaps locale workloads now other →
          load locale workloads now chosen ≤ load locale workloads now other := by
  unfold eligibleAgents
  rw [firstLeast_insertionSort _ (load locale workloads now)
    (fun left right => loadedNoMore_iff locale workloads now left right), firstLeast_filter]
  simp only [eligible_iff]

theorem eligibleAgents_bestChoice :
    BestChoice locale workloads now agents
      ((eligibleAgents locale agents workloads now).head?.map fun agent => agent.userId) where
  nobody := by
    unfold eligibleAgents
    rw [Option.map_eq_none_iff, head?_insertionSort_none, List.filter_eq_nil_iff]
    simp only [eligible_iff]
  somebody := by
    intro userId
    simp only [Option.map_eq_some_iff, eligibleAgents_head, LeastLoaded]
    constructor
    · rintro ⟨chosen, ⟨before, after, split, rest⟩, same⟩
      exact ⟨before, chosen, after, split, same, rest⟩
    · rintro ⟨before, chosen, after, split, same, rest⟩
      exact ⟨chosen, ⟨before, after, split, rest⟩, same⟩

end LeastLoaded

/-- For every list of agents and of workloads, and for those that an organisation has. -/
theorem best_agent_least_loaded (locale : Locale) :
    (∀ (agents : List OrganizationMembership) (workloads : List AgentWorkload) (now : Nat),
      BestChoice locale workloads now agents
        ((eligibleAgents locale agents workloads now).head?.map fun agent => agent.userId)) ∧
    ∀ (organizationId : Nat) (world : World), ∃ agents workloads chosen,
      (getOrganizationAvailableAgents organizationId).run world = (.ok agents, world) ∧
      (getOrganizationAgentWorkloads organizationId).run world = (.ok workloads, world) ∧
      (findBestAutoAssignAgent locale organizationId).run world = (.ok chosen, world) ∧
      BestChoice locale workloads world.now agents chosen :=
  ⟨fun agents workloads now => eligibleAgents_bestChoice locale workloads now agents,
    fun _ _ => ⟨_, _, _, rfl, rfl, rfl, eligibleAgents_bestChoice ..⟩⟩

end HelpForge.Tickets
