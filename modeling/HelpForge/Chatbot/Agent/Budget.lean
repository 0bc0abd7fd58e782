import HelpForge.Chatbot.Agent.Availability

set_option autoImplicit false

namespace HelpForge.Chatbot

open Lib

structure Tally (κ : Type) where
  agent : AgentState
  invoked : κ → Nat
  owner : Option κ

section Budget

variable {κ : Type} [DecidableEq κ]

def Tally.after (run : κ) (agent : AgentState) (tally : Tally κ) : Tally κ :=
  { tally with
    agent
    invoked := Function.update tally.invoked run
      (tally.invoked run + (agent.executions.length - tally.agent.executions.length)) }

def Tally.reset (run : κ) (tally : Tally κ) : Tally κ where
  agent := { tally.agent with call_count := 0 }
  invoked := Function.update tally.invoked run 0
  owner := some run

def talliedRun (run : κ) (python : Python) (outside : Surroundings) (inp : AgentInput) :
    Program (Tally κ) PyError AgentDecision := do
  Program.modify (Tally.reset run)
  (runReset python outside inp).zoom Tally.agent (Tally.after run)

theorem talliedRun_agent (run : κ) (python : Python) (outside : Surroundings) (inp : AgentInput)
    (tally : Tally κ) :
    ((talliedRun run python outside inp).run tally).1 =
        ((agentRun python outside inp).run tally.agent).1 ∧
      ((talliedRun run python outside inp).run tally).2.agent =
        ((agentRun python outside inp).run tally.agent).2 := by
  have watched := Program.run_zoom_view Tally.agent (Tally.after run) (fun _ _ => rfl)
    (runReset python outside inp) (tally.reset run)
  rw [agentRun_eq, talliedRun, Program.run_bind, Program.run_modify, Program.run_bind,
    Program.run_modify]
  generalize runReset python outside inp = rest at watched ⊢
  exact watched

def RunsTallied (_ : List (Tally κ)) (run : κ) (program : Program (Tally κ) PyError AgentDecision) :
    Prop :=
  ∃ python outside inp, program = talliedRun run python outside inp

def TallyOutside (tally reached : Tally κ) : Prop :=
  ∃ agent, StatusChange tally.agent agent ∧ reached = { tally with agent }

def Enters (run : κ) (change : Tally κ → Tally κ) : Prop :=
  ∃ python gateway name input, change =
    fun tally => tally.after run ((firstTry python gateway name input).run tally.agent).2

def Retries (run : κ) (change : Tally κ → Tally κ) : Prop :=
  ∃ python gateway tool input, change =
    fun tally => tally.after run ((tryTool python gateway tool input).run tally.agent).2

/-- The run goes to the executor only while the counter is its own, and no retry goes beyond the
limit. -/
structure Careful (run : κ) (change : Tally κ → Tally κ) (tally : Tally κ) : Prop where
  enters : Enters run change → tally.owner = some run
  retries : Retries run change →
    tally.owner = some run ∧ tally.agent.call_count < maxToolCallsPerRun

structure WithinBudget (tally : Tally κ) : Prop where
  counted : ∀ run, tally.owner = some run → tally.agent.call_count = tally.invoked run
  bounded : ∀ run, tally.invoked run ≤ maxToolCallsPerRun

def BudgetRule (run : κ) (change : Tally κ → Tally κ) (tally : Tally κ) : Prop :=
  Careful run change tally → WithinBudget tally → WithinBudget (change tally)

variable {run : κ} {tally : Tally κ}

theorem WithinBudget.reset (within : WithinBudget tally) (run : κ) :
    WithinBudget (tally.reset run) where
  counted := by
    rintro other owner
    obtain rfl : run = other := Option.some.inj owner
    simp [Tally.reset]
  bounded := by
    intro other
    by_cases same : other = run
    · subst same
      simp [Tally.reset]
    · simpa [Tally.reset, same] using within.bounded other

theorem WithinBudget.quiet (within : WithinBudget tally) (run : κ) (agent : AgentState)
    (call_count : agent.call_count = tally.agent.call_count)
    (executions : agent.executions = tally.agent.executions) :
    WithinBudget (tally.after run agent) := by
  have same : (tally.after run agent).invoked = tally.invoked := by
    simp [Tally.after, executions]
  exact {
    counted := fun other owner => by
      rw [same, ← within.counted other owner]
      exact call_count
    bounded := fun other => same ▸ within.bounded other }

theorem WithinBudget.attempted (within : WithinBudget tally) (python : Python) (tool : Tool)
    (input : Dict Value) (owner : tally.owner = some run)
    (limit : tally.agent.call_count < maxToolCallsPerRun) :
    WithinBudget (tally.after run (tally.agent.attempted python tool input 1)) := by
  have once : (tally.after run (tally.agent.attempted python tool input 1)).invoked =
      Function.update tally.invoked run (tally.invoked run + 1) := by
    simp [Tally.after, AgentState.attempted]
  have counted := within.counted run owner
  constructor
  · intro other owned
    obtain rfl : run = other := Option.some.inj (owner.symm.trans owned)
    rw [once, Function.update_self, ← counted]
    rfl
  · intro other
    rw [once]
    by_cases same : other = run
    · subst same
      rw [Function.update_self, ← counted]
      exact limit
    · rw [Function.update_of_ne same]
      exact within.bounded other

theorem AgentStatement.budgetRule {change : AgentState → AgentState}
    (statement : AgentStatement change tally.agent) :
    BudgetRule run (fun tally => tally.after run (change tally.agent)) tally := by
  intro careful within
  cases statement with
  | quiet call_count executions => exact within.quiet run _ call_count executions
  | enters python gateway name input enter =>
    subst enter
    have owner := careful.enters ⟨python, gateway, name, input, rfl⟩
    dsimp only
    rcases @firstTry_cases python gateway name input tally.agent with
      ⟨same, -⟩ | ⟨tool, limit, -, first⟩
    · rw [same]
      exact within.quiet run _ rfl rfl
    · rw [first]
      exact within.attempted python tool input owner limit
  | retries python gateway tool input retry =>
    subst retry
    obtain ⟨owner, limit⟩ := careful.retries ⟨python, gateway, tool, input, rfl⟩
    dsimp only
    rw [tryTool_state]
    exact within.attempted python tool input owner limit

theorem each_talliedRun (run : κ) (python : Python) (outside : Surroundings) (inp : AgentInput) :
    (talliedRun run python outside inp).Each (BudgetRule run) := by
  refine .bind (.modify fun tally _ within => within.reset run) fun _ => ?_
  have each := each_runReset python outside inp
  generalize runReset python outside inp = rest at each ⊢
  exact each.zoom fun change tally statement => statement.budgetRule

omit [DecidableEq κ] in
theorem TallyOutside.withinBudget {reached : Tally κ} (moved : TallyOutside tally reached)
    (within : WithinBudget tally) : WithinBudget reached := by
  obtain ⟨agent, ⟨name, status, changed⟩, rfl⟩ := moved
  unfold setToolStatus at changed
  split at changed
  next => cases changed
  next =>
    cases changed
    exact ⟨within.counted, within.bounded⟩

/-- However runs of the agent interleave, each invokes at most three tools and is refused for no
others' calls, as long as no run begins between the beginning of another and its uses of the
executor, and no tool is retried when the counter has come to the limit. -/
theorem tool_budget_kept (start : AgentState)
    (final : Pool κ (Tally κ) (Program (Tally κ) PyError AgentDecision))
    (run : Pool.Run (Pool.ofPrograms RunsTallied TallyOutside) (Pool.Permitted Careful)
      (Pool.idle { agent := start, invoked := fun _ => 0, owner := none }) final) :
    (∀ tally ∈ final.seen, ∀ run, tally.invoked run ≤ maxToolCallsPerRun) ∧
      ∀ run change next, final.calls run = some (.atomic change next) → Enters run change →
        Careful run change final.state → final.state.invoked run < maxToolCallsPerRun →
          final.state.agent.call_count < maxToolCallsPerRun := by
  have keeps (seen : List (Tally κ)) (call : κ) (program : Program (Tally κ) PyError AgentDecision)
      (begun : RunsTallied seen call program) : program.Each (BudgetRule call) := by
    obtain ⟨python, outside, inp, rfl⟩ := begun
    exact each_talliedRun call python outside inp
  obtain ⟨history, -⟩ := @Pool.Run.history κ _ _ _ _ _ _ Careful BudgetRule _ final run keeps
  have within : ∀ tally ∈ final.seen, WithinBudget tally := by
    refine history.invariant ?_ ?_
    · rintro _ rfl
      exact ⟨nofun, fun _ => Nat.zero_le _⟩
    · intro past tally reached held moved
      have before := held tally (List.mem_cons_self ..)
      rcases moved with ⟨call, change, careful, rule, rfl⟩ | moved
      · exact rule careful before
      · exact moved.withinBudget before
  refine ⟨fun tally member => (within tally member).bounded, ?_⟩
  intro run change next _ enters careful below
  have now := within final.state (List.mem_cons_self ..)
  rwa [now.counted run (careful.enters enters)]

theorem careful_of_owner {process : Program (Tally κ) PyError AgentDecision}
    {pool : Pool κ (Tally κ) (Program (Tally κ) PyError AgentDecision)}
    (owner : pool.state.owner = some run)
    (below : pool.state.agent.call_count < maxToolCallsPerRun) :
    Pool.Permitted Careful pool run process :=
  fun _ _ _ => ⟨fun _ => owner, fun _ => ⟨owner, below⟩⟩

theorem careful_reset (run : κ) (tally : Tally κ) : Careful run (Tally.reset run) tally := by
  -- The reset is no use of the executor.
  have differs (agent : Tally κ → AgentState)
      (same : Tally.reset run = fun tally => tally.after run (agent tally)) : False := by
    have owners := congrArg Tally.owner (congrFun same { tally with owner := none })
    cases owners
  constructor
  · rintro ⟨python, gateway, name, input, same⟩
    exact (differs _ same).elim
  · rintro ⟨python, gateway, tool, input, same⟩
    exact (differs _ same).elim

end Budget

def escalatingRun (gateway : ActionGateway) (turns : Nat) :
    Pool Unit (Tally Unit) (Program (Tally Unit) PyError AgentDecision) :=
  -- Turns of one run that wants the ticket escalated again and again.
  Pool.play Program.advance
    (fun run => talliedRun run (.reading escalationData) (script gateway).surroundings advice)
    (List.replicate turns (.turn ()))
    (Pool.idle { agent := {}, invoked := fun _ => 0, owner := none })
where
  script (gateway : ActionGateway) : Script :=
    { Script.saying (List.replicate 6 escalation) with gateway }

theorem escalatingRun_run {allowed : Pool Unit (Tally Unit) (Program (Tally Unit) PyError
    AgentDecision) → Unit → Program (Tally Unit) PyError AgentDecision → Prop}
    (gateway : ActionGateway) (turns : Nat)
    (permitted : ∀ before < turns, ∀ process,
      (escalatingRun gateway before).calls () = some process →
        allowed (escalatingRun gateway before) () process) :
    Pool.Run (Pool.ofPrograms RunsTallied TallyOutside) allowed
      (Pool.idle { agent := {}, invoked := fun _ => 0, owner := none })
      (escalatingRun gateway turns) := by
  have begins (seen : List (Tally Unit)) (run : Unit) :
      RunsTallied seen run (talliedRun run (.reading escalationData)
        (escalatingRun.script gateway).surroundings advice) :=
    ⟨_, _, _, rfl⟩
  refine Pool.play_run begins _ ?_ _ (Pool.permits_turns () turns _ permitted)
  intro change member
  rw [List.mem_replicate] at member
  cases member.2

def timeout : Except PyError Value := .error ⟨"ReadTimeout", ""⟩

theorem escalation_within_budget :
    (escalatingRun (fun _ => timeout) 7).state.invoked () = 3 ∧
      ∀ tally ∈ (escalatingRun (fun _ => timeout) 7).seen, ∀ run,
        tally.invoked run ≤ maxToolCallsPerRun := by
  have own : ∀ before < 5,
      (escalatingRun (fun _ => timeout) (before + 2)).state.owner = some () ∧
        (escalatingRun (fun _ => timeout) (before + 2)).state.agent.call_count <
          maxToolCallsPerRun := by
    decide +kernel
  refine ⟨by decide +kernel, (tool_budget_kept {} _ (escalatingRun_run _ 7 ?_)).1⟩
  intro before earlier process running
  match before with
  | 0 => cases running
  | 1 =>
    rintro change next rfl
    cases running
    exact careful_reset () _
  | before + 2 =>
    obtain ⟨owner, below⟩ := own before (by omega)
    exact careful_of_owner owner below

/-- The third tool is retried past the limit. -/
theorem escalation_over_budget :
    ∃ final, Pool.Run (Pool.ofPrograms RunsTallied TallyOutside) Pool.anyStatement
      (Pool.idle { agent := {}, invoked := fun _ : Unit => 0, owner := none }) final ∧
      ¬final.state.invoked () ≤ maxToolCallsPerRun := by
  let gateway : ActionGateway := fun calls => if calls.length < 3 then .ok (.dict []) else timeout
  refine ⟨escalatingRun gateway 13, escalatingRun_run gateway 13 fun _ _ _ _ => trivial, ?_⟩
  decide +kernel

end HelpForge.Chatbot
