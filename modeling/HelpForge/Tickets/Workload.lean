import HelpForge.Tickets.AutoAssign
import HelpForge.Tickets.Writes

set_option autoImplicit false

namespace HelpForge.Tickets

open Lib

def dayLength : Int := 86400000

def localDay (offset : Int) (time : Nat) : Int := (time + offset) / dayLength

def dayStart (offset day : Int) : Nat := (day * dayLength - offset).toNat

/-- `getDay`; the epoch was a Thursday, and a week is told from its Sunday. -/
def weekday (day : Int) : Int := (day + 4) % 7

def daysSinceMonday (day : Int) : Int :=
  if weekday day = 0 then 6 else weekday day - 1

/-- `startOfDay` and `startOfWeek` where the local time is ahead by `offset` at all times. -/
def zone (offset : Int) : Locale where
  startOfDay time := dayStart offset (localDay offset time)
  startOfWeek time :=
    let day := localDay offset time
    dayStart offset (day - daysSinceMonday day)

section Commits

variable (showId : Nat → String) (organizationId agentUserId : Nat)

def workloadRows (db : Database) : List AgentWorkload :=
  db.agentWorkloads.filter (isWorkloadOf organizationId agentUserId)

/-- `autoAssignTicket` has committed for the agent at the times, and nothing else has written
the agent's row. -/
inductive Commits : List Nat → World → Prop
  | start (world : World) (absent : workloadRows organizationId agentUserId world.db = []) :
    Commits [] world
  | commit (times : List Nat) (world reached : World) (ticketId : Nat) (assigned : HydratedTicket)
    (before : Commits times world)
    (committed : (autoAssignTicket showId ticketId organizationId agentUserId).run world =
      (.ok assigned, reached)) :
    Commits (times ++ [world.now]) reached
  | elsewhere (times : List Nat) (world reached : World) (before : Commits times world)
    (kept : workloadRows organizationId agentUserId reached.db =
      workloadRows organizationId agentUserId world.db) :
    Commits times reached

def tally : List Nat → List AgentWorkload
  | [] => []
  | first :: rest =>
    [{ userId := agentUserId
       organizationId
       assignedToday := rest.length + 1
       assignedThisWeek := rest.length + 1
       lastDailyReset := first
       lastWeeklyReset := first }]

variable {showId organizationId agentUserId}

theorem workloadRows_counted (now : Nat) (db : Database) (times : List Nat)
    (rows : workloadRows organizationId agentUserId db = tally organizationId agentUserId times) :
    workloadRows organizationId agentUserId (counted now organizationId agentUserId db) =
      tally organizationId agentUserId (times ++ [now]) := by
  unfold counted
  cases times with
  | nil =>
    have absent : db.agentWorkloads.any (isWorkloadOf organizationId agentUserId) = false := by
      simpa [workloadRows, tally] using rows
    have none : db.agentWorkloads.filter (isWorkloadOf organizationId agentUserId) = [] := rows
    simp [absent, workloadRows, countFirst, none, isWorkloadOf, tally]
  | cons first rest =>
    have one : db.agentWorkloads.filter (isWorkloadOf organizationId agentUserId) =
        tally organizationId agentUserId (first :: rest) := rows
    have there : db.agentWorkloads.any (isWorkloadOf organizationId agentUserId) = true := by
      by_contra missing
      have absent : db.agentWorkloads.filter (isWorkloadOf organizationId agentUserId) = [] := by
        simpa using missing
      simp [absent, tally] at one
    -- the change of the counters keeps the key of the row
    have changed : workloadRows organizationId agentUserId
          (countOne organizationId agentUserId db) =
        changeWhere (isWorkloadOf organizationId agentUserId) _
          (db.agentWorkloads.filter (isWorkloadOf organizationId agentUserId)) :=
      filter_changeWhere (isWorkloadOf organizationId agentUserId) fun _ => rfl
    rw [if_pos there, changed, one]
    simp [tally, changeWhere, isWorkloadOf]

theorem commits_tally (times : List Nat) (world : World)
    (run : Commits showId organizationId agentUserId times world) :
    workloadRows organizationId agentUserId world.db = tally organizationId agentUserId times := by
  induction run with
  | start world absent => exact absent
  | commit times world reached ticketId assigned before committed ih =>
    obtain ⟨ticket, -, rfl⟩ := autoAssignTicket_ok _ _ _ _ _ committed
    exact workloadRows_counted world.now world.db times ih
  | elsewhere times world reached before kept ih => rw [kept, ih]

end Commits

def OnOneSide (boundary : Nat) (times : List Nat) : Prop :=
  -- The times lie all before the boundary or all from it on.
  (∀ time ∈ times, time < boundary) ∨ ∀ time ∈ times, boundary ≤ time

def trueWorkload (locale : Locale) (times : List Nat) (now : Nat) : EffectiveWorkload where
  assignedToday := times.countP fun time => locale.startOfDay now ≤ time
  assignedThisWeek := times.countP fun time => locale.startOfWeek now ≤ time

theorem counted_from_first_iff (boundary first : Nat) (rest : List Nat) :
    (if boundary ≤ first then rest.length + 1 else 0) =
        (first :: rest).countP (fun time => boundary ≤ time) ↔
      OnOneSide boundary (first :: rest) := by
  by_cases from_first : boundary ≤ first
  · rw [if_pos from_first, ← List.length_cons, eq_comm, List.countP_eq_length]
    constructor
    · intro all
      exact .inr fun time among => of_decide_eq_true (all time among)
    · rintro (before | after)
      · have early := before first (List.mem_cons_self ..)
        omega
      · exact fun time among => decide_eq_true (after time among)
  · rw [if_neg from_first, eq_comm, List.countP_eq_zero]
    constructor
    · intro none
      refine .inl fun time among => ?_
      have missed := none time among
      simpa using missed
    · rintro (before | after) time among
      · have early := before time among
        simpa using early
      · exact absurd (after first (List.mem_cons_self ..)) from_first

def storedWorkload (db : Database) (organizationId agentUserId : Nat) : Option AgentWorkload :=
  db.agentWorkloads.find? (isWorkloadOf organizationId agentUserId)

theorem effective_tally_iff (locale : Locale) (organizationId agentUserId : Nat)
    (times : List Nat) (now : Nat) :
    getEffectiveWorkload locale (tally organizationId agentUserId times).head? now =
        trueWorkload locale times now ↔
      OnOneSide (locale.startOfDay now) times ∧ OnOneSide (locale.startOfWeek now) times := by
  cases times with
  | nil => simp [tally, getEffectiveWorkload, trueWorkload, OnOneSide]
  | cons first rest =>
    rw [← counted_from_first_iff, ← counted_from_first_iff]
    simp [tally, getEffectiveWorkload, trueWorkload]

/-- The row says how many tickets the agent was assigned today and this week exactly where the
agent's assignments lie all on one side of either beginning. -/
theorem workload_accounted_iff (locale : Locale) (organizationId agentUserId : Nat)
    (times : List Nat) (world : World)
    (run : Commits locale.showId organizationId agentUserId times world) (now : Nat) :
    getEffectiveWorkload locale (storedWorkload world.db organizationId agentUserId) now =
        trueWorkload locale times now ↔
      OnOneSide (locale.startOfDay now) times ∧ OnOneSide (locale.startOfWeek now) times := by
  have rows := commits_tally times world run
  have stored : storedWorkload world.db organizationId agentUserId =
      (tally organizationId agentUserId times).head? := by
    rw [← rows]
    exact (List.head?_filter ..).symm
  rw [stored]
  exact effective_tally_iff locale organizationId agentUserId times now

def helpDesk (now : Nat) : World where
  db :=
    { users := [{ id := 1, email := "agent@a.example", password := "" }]
      organizations := [{ id := 2, name := "A" }]
      tickets := [{ id := 3, title := "First", organizationId := 2, createdById := 1 },
        { id := 4, title := "Second", organizationId := 2, createdById := 1 }]
      nextId := 5 }
  now

def assignedOn (world : World) (ticketId : Nat) : World :=
  ((autoAssignTicket toString ticketId 2 1).run world).2

theorem assignedOn_commits (times : List Nat) (world : World) (ticketId : Nat)
    (before : Commits toString 2 1 times world)
    (succeeds : ((autoAssignTicket toString ticketId 2 1).run world).1.toOption.isSome = true) :
    Commits toString 2 1 (times ++ [world.now]) (assignedOn world ticketId) := by
  obtain ⟨assigned, ended⟩ := Option.isSome_iff_exists.mp succeeds
  refine .commit times world _ ticketId assigned before (Prod.ext ?_ rfl)
  cases outcome : ((autoAssignTicket toString ticketId 2 1).run world).1 with
  | error failure => simp [outcome, Except.toOption] at ended
  | ok found => simpa [outcome, Except.toOption] using ended

def wednesday : Nat := 6 * 86400000 + 36000000

def thursday : Nat := 7 * 86400000 + 36000000

def afterWednesday : World := assignedOn (helpDesk wednesday) 3

def afterThursday : World := assignedOn { afterWednesday with now := thursday } 4

theorem afterWednesday_commits : Commits toString 2 1 [wednesday] afterWednesday :=
  assignedOn_commits [] (helpDesk wednesday) 3 (.start _ rfl) (by decide +kernel)

theorem afterThursday_commits : Commits toString 2 1 [wednesday, thursday] afterThursday :=
  assignedOn_commits [wednesday] { afterWednesday with now := thursday } 4
    (.elsewhere _ _ _ afterWednesday_commits rfl) (by decide +kernel)

theorem first_day_accounted :
    getEffectiveWorkload (zone 0) (storedWorkload afterWednesday.db 2 1) wednesday =
      trueWorkload (zone 0) [wednesday] wednesday :=
  (workload_accounted_iff (zone 0) 2 1 [wednesday] afterWednesday afterWednesday_commits
    wednesday).mpr
    ⟨.inr (by decide +kernel), .inr (by decide +kernel)⟩

/-- The second day's ticket is not counted, since the row's dates are those of the first day. -/
theorem second_day_uncounted :
    Commits (zone 0).showId 2 1 [wednesday, thursday] afterThursday ∧ wednesday ≤ thursday ∧
      getEffectiveWorkload (zone 0) (storedWorkload afterThursday.db 2 1) thursday = ⟨0, 2⟩ ∧
      trueWorkload (zone 0) [wednesday, thursday] thursday = ⟨1, 2⟩ :=
  ⟨afterThursday_commits, by decide, by decide +kernel, by decide +kernel⟩

end HelpForge.Tickets
