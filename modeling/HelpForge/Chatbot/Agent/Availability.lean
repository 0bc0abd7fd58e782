import HelpForge.Chatbot.Agent.Outcome
import HelpForge.Chatbot.Agent.Statements

set_option autoImplicit false

namespace HelpForge.Chatbot

open Lib

/-- `set_tool_status`: no one tells the validator. -/
def setToolStatus (name : String) (status : ToolStatus) (state : AgentState) :
    Except PyError AgentState :=
  match findTool name with
  | none => .error ⟨"ValueError", "Unknown tool: '" ++ name ++ "'"⟩
  | some _ => .ok { state with statuses := Dict.put state.statuses name status }

def StatusChange (state reached : AgentState) : Prop :=
  ∃ name status, setToolStatus name status state = .ok reached

def ExecutesEnabled (state reached : AgentState) : Prop :=
  -- Between the two states, no tool was executed that was disabled.
  ∃ executed, reached.executions = state.executions ++ executed ∧
    ∀ execution ∈ executed, state.status execution.1 ≠ .disabled

def unnamedValidator : AgentValidator where
  all_tool_names := []
  active_tool_names := []

def ValidatorAgrees (python : Python) (state : AgentState) : Prop :=
  -- Of the decisions that ask for a tool and are valid otherwise, the validator accepts those whose
  -- tool is registered and not disabled.
  ∀ data name, data.lookup "action" = some (.str "tool_call") →
    data.lookup "tool" = some (.str name) → unnamedValidator.validate python data = .ok () →
    (agentValidator.validate python data = .ok () ↔ state.runnable name ≠ none)

section Validator

variable {python : Python} (name : String)

theorem findTool_eq_none : findTool name = none ↔ name ∉ allTools.map Tool.name := by
  rw [findTool, List.find?_eq_none]
  simp

theorem checkTool_ok_iff (validator : AgentValidator) (data : Dict Value) (name : String)
    (tool : data.lookup "tool" = some (.str name)) :
    validator.checkTool python data = .ok () ↔
      name ≠ "" ∧ (validator.all_tool_names ≠ [] → name ∈ validator.all_tool_names) ∧
        (validator.active_tool_names ≠ [] → name ∈ validator.active_tool_names) ∧
        ∃ input, (data.lookup "tool_input").getD (.dict []) = .dict input := by
  unfold AgentValidator.checkTool
  rw [tool]
  dsimp only
  split_ifs with empty unknown inactive
  · simp [empty]
  · simp only [false_iff]
    rintro ⟨-, known, -⟩
    exact unknown.2 (known unknown.1)
  · simp only [false_iff]
    rintro ⟨-, -, active, -⟩
    exact inactive.2 (active inactive.1)
  · simp only [not_and, not_not] at unknown inactive
    cases (data.lookup "tool_input").getD (.dict []) <;> simp_all

theorem validate_named (data : Dict Value) (name : String)
    (tool : data.lookup "tool" = some (.str name))
    (calls : data.lookup "action" = some (.str "tool_call"))
    (valid : unnamedValidator.validate python data = .ok ()) :
    agentValidator.validate python data = .ok () ↔ findTool name ≠ none := by
  -- The names make no difference but for the tool that is asked for.
  unfold AgentValidator.validate at valid ⊢
  obtain ⟨_, required, valid⟩ := (bind_eq_ok _ _ _).mp valid
  rw [required]
  change agentValidator.checkValues python data = .ok () ↔ _
  rw [checkValues_ok] at valid ⊢
  obtain ⟨action, confidence, named, number, ranged, checked, message⟩ := valid
  have wants : action = .tool_call := by
    rw [calls] at named
    exact (Option.some.inj named).symm
  obtain ⟨nonempty, -, -, input⟩ := (checkTool_ok_iff _ data name tool).mp (checked wants)
  have some_tools : allTools.map Tool.name ≠ [] := by decide
  have same : agentValidator.checkTool python data = .ok () ↔ findTool name ≠ none := by
    rw [Ne, findTool_eq_none, not_not, checkTool_ok_iff _ data name tool]
    constructor
    · rintro ⟨-, known, -⟩
      exact known some_tools
    · intro listed
      exact ⟨nonempty, fun _ => listed, fun _ => listed, input⟩
  constructor
  · rintro ⟨action', -, named', -, -, checked', -⟩
    rw [named, Option.some.injEq] at named'
    subst named'
    exact same.mp (checked' wants)
  · intro registered
    exact ⟨action, confidence, named, number, ranged, fun _ => same.mpr registered, message⟩

def decisionFor (name : String) : Dict Value :=
  [("action", .str "tool_call"), ("confidence", .int 1), ("reasoning", .str "r"),
    ("message", .str "m"), ("tool", .str name)]

theorem decisionFor_valid (nonempty : name ≠ "") :
    unnamedValidator.validate python (decisionFor name) = .ok () := by
  refine (bind_eq_ok _ _ _).mpr ⟨(), rfl, (checkValues_ok unnamedValidator _).mpr ?_⟩
  have message : stripped "m" ≠ "" := by decide
  refine ⟨.tool_call, 1, rfl, rfl, by decide, fun _ => ?_, message⟩
  exact (checkTool_ok_iff _ _ name rfl).mpr
    ⟨nonempty, fun known => absurd rfl known, fun active => absurd rfl active, [], rfl⟩

theorem validator_agrees_iff (python : Python) (state : AgentState) :
    ValidatorAgrees python state ↔ ∀ tool ∈ allTools, state.status tool.name ≠ .disabled := by
  constructor
  · intro agrees tool listed disabled
    have all_named : ∀ tool ∈ allTools, tool.name ≠ "" := by decide
    have nonempty := all_named tool listed
    have accepted : agentValidator.validate python (decisionFor tool.name) = .ok () := by
      rw [validate_named _ tool.name rfl rfl (decisionFor_valid tool.name nonempty), Ne,
        findTool_eq_none, not_not]
      exact List.mem_map_of_mem listed
    have runnable := (agrees (decisionFor tool.name) tool.name rfl rfl
      (decisionFor_valid tool.name nonempty)).mp accepted
    exact runnable (if_pos disabled)
  · intro enabled data name calls tool valid
    rw [validate_named data name tool calls valid]
    cases found : findTool name with
    | none =>
      simp [AgentState.runnable, found]
    | some registered =>
      have named := (findTool_regular name registered found).2
      have listed := enabled registered (List.mem_of_find?_eq_some found)
      rw [named] at listed
      simp [AgentState.runnable, found, listed]

end Validator

def RunsAgent {κ : Type} (_ : List AgentState) (_ : κ) (program : AgentCall AgentDecision) : Prop :=
  ∃ python outside inp, program = agentRun python outside inp

def RetriesEnabled (change : AgentState → AgentState) (state : AgentState) : Prop :=
  ∀ python gateway tool input,
    change = (fun state => ((tryTool python gateway tool input).run state).2) →
      state.status tool.name ≠ .disabled

section Runs

theorem executes_nothing {state reached : AgentState}
    (same : reached.executions = state.executions) : ExecutesEnabled state reached :=
  ⟨[], by rw [same, List.append_nil], nofun⟩

variable (python : Python)

theorem executes_attempted (tool : Tool) (input : Dict Value) (state : AgentState)
    (enabled : state.status tool.name ≠ .disabled) :
    ExecutesEnabled state (state.attempted python tool input 1) := by
  refine ⟨[(tool.name, input)], rfl, ?_⟩
  intro execution executed
  rw [List.mem_singleton] at executed
  exact executed ▸ enabled

theorem AgentStatement.executesEnabled {change : AgentState → AgentState} {state : AgentState}
    (statement : AgentStatement change state) (permitted : RetriesEnabled change state) :
    ExecutesEnabled state (change state) := by
  -- Any statement but a retry executes enabled tools only.
  cases statement with
  | quiet call_count executions => exact executes_nothing executions
  | enters python gateway name input enter =>
    subst enter
    rcases @firstTry_cases python gateway name input state with ⟨same, -⟩ | ⟨tool, -, able, first⟩
    · exact executes_nothing (congrArg AgentState.executions same)
    · change ExecutesEnabled state ((firstTry python gateway name input).run state).2
      rw [first]
      refine executes_attempted python tool input state ?_
      unfold AgentState.runnable at able
      split_ifs at able with disabled
      rwa [(findTool_regular name tool able).2]
  | retries python gateway tool input retry =>
    have enabled := permitted python gateway tool input retry
    subst retry
    change ExecutesEnabled state ((tryTool python gateway tool input).run state).2
    rw [tryTool_state]
    exact executes_attempted python tool input state enabled

def EnabledRule (change : AgentState → AgentState) (state : AgentState) : Prop :=
  RetriesEnabled change state → ExecutesEnabled state (change state)

theorem each_agentRun (outside : Surroundings) (inp : AgentInput) :
    (agentRun python outside inp).Each EnabledRule := by
  rw [agentRun_eq]
  refine .bind (.modify fun state _ => executes_nothing rfl) fun _ => ?_
  have each := each_runReset python outside inp
  generalize runReset python outside inp = rest at each ⊢
  exact each.weaken fun change state statement => statement.executesEnabled

theorem StatusChange.executesEnabled {state reached : AgentState}
    (changed : StatusChange state reached) : ExecutesEnabled state reached := by
  obtain ⟨name, status, changed⟩ := changed
  unfold setToolStatus at changed
  split at changed
  next => cases changed
  next =>
    cases changed
    exact executes_nothing rfl

/-- As long as no retry meets a disabled tool, no disabled tool is executed, whatever runs of
the agent and changes of status interleave; but the validator agrees with the executor only
while no tool is disabled. -/
theorem disabled_tools_stay_off {κ : Type} [DecidableEq κ] (python : Python) (start : AgentState)
    (final : Pool κ AgentState (AgentCall AgentDecision))
    (run : Pool.Run (Pool.ofPrograms RunsAgent StatusChange)
      (Pool.Permitted fun _ => RetriesEnabled) (Pool.idle start) final) :
    (∀ past state reached, reached :: state :: past <:+ final.seen →
      ExecutesEnabled state reached) ∧
    ∀ state ∈ final.seen, ValidatorAgrees python state ↔
      ∀ tool ∈ allTools, state.status tool.name ≠ .disabled := by
  refine ⟨?_, fun state _ => validator_agrees_iff python state⟩
  have keeps (seen : List AgentState) (call : κ) (program : AgentCall AgentDecision)
      (begun : RunsAgent seen call program) : program.Each EnabledRule := by
    obtain ⟨python, outside, inp, rfl⟩ := begun
    exact each_agentRun python outside inp
  obtain ⟨history, -⟩ := @Pool.Run.history κ _ _ _ _ _ _ (fun _ => RetriesEnabled)
    (fun _ => EnabledRule) start final run keeps
  intro past state reached part
  rcases history.stepped past state reached part with ⟨_, change, permitted, rule, rfl⟩ | changed
  · exact rule permitted
  · exact changed.executesEnabled

theorem run_enabled {κ : Type} [DecidableEq κ] {start : AgentState}
    {final : Pool κ AgentState (AgentCall AgentDecision)}
    (run : Pool.Run (Pool.ofPrograms RunsAgent StatusChange) Pool.anyStatement
      (Pool.idle start) final)
    (enabled : ∀ state ∈ final.seen, ∀ entry ∈ state.statuses, entry.2 ≠ .disabled) :
    Pool.Run (Pool.ofPrograms RunsAgent StatusChange) (Pool.Permitted fun _ => RetriesEnabled)
      (Pool.idle start) final := by
  -- While no status says otherwise, every retry finds its tool enabled.
  refine run.permit fun middle within call process change next _ python gateway tool input _ => ?_
  have listed := enabled middle.state (within.subset (List.mem_cons_self ..))
  unfold AgentState.status
  cases found : middle.state.statuses.lookup tool.name with
  | none => exact nofun
  | some status =>
    obtain ⟨earlier, later, shape, -⟩ := List.lookup_eq_some_iff.mp found
    exact listed (tool.name, status) (by rw [shape]; simp)

end Runs

def unansweredEscalation : Script :=
  -- The model wants the ticket escalated, and the gateway gives no answer.
  { Script.saying [escalation] with gateway := fun _ => .error ⟨"ReadTimeout", ""⟩ }

def statusDuringBackoff (status : ToolStatus) : Pool Unit AgentState (AgentCall AgentDecision) :=
  -- The status of the tool changes between its first attempt and the first retry.
  Pool.play Program.advance
    (fun _ => agentRun (.reading escalationData) unansweredEscalation advice)
    (List.replicate 5 (.turn ()) ++ [.outside (change status), .turn ()]) (Pool.idle {})
where
  change (status : ToolStatus) (state : AgentState) : AgentState :=
    { state with statuses := Dict.put state.statuses "escalate_ticket" status }

theorem statusDuringBackoff_run (status : ToolStatus) :
    Pool.Run (Pool.ofPrograms RunsAgent StatusChange) Pool.anyStatement (Pool.idle {})
      (statusDuringBackoff status) := by
  have begins (seen : List AgentState) (call : Unit) :
      RunsAgent seen call (agentRun (.reading escalationData) unansweredEscalation advice) :=
    ⟨_, _, _, rfl⟩
  refine Pool.play_run begins _ ?_ _ (Pool.permits_any ..)
  intro change member state
  have same : change = statusDuringBackoff.change status := by
    simpa [List.replicate] using member
  subst same
  exact ⟨"escalate_ticket", status, rfl⟩

theorem degraded_tool_retried :
    (statusDuringBackoff .degraded).state.executions.length = 2 ∧
      (∀ past state reached, reached :: state :: past <:+ (statusDuringBackoff .degraded).seen →
        ExecutesEnabled state reached) ∧
      ∀ state ∈ (statusDuringBackoff .degraded).seen,
        ValidatorAgrees (.reading escalationData) state ↔
          ∀ tool ∈ allTools, state.status tool.name ≠ .disabled := by
  have enabled : ∀ state ∈ (statusDuringBackoff .degraded).seen, ∀ entry ∈ state.statuses,
      entry.2 ≠ .disabled := by
    decide +kernel
  exact ⟨by decide +kernel, disabled_tools_stay_off (.reading escalationData) {}
    (statusDuringBackoff .degraded) (run_enabled (statusDuringBackoff_run .degraded) enabled)⟩

/-- Nothing keeps the retry from a tool that was disabled meanwhile, and the validator goes on to
accept it. -/
theorem disabled_tool_retried :
    ∃ final : Pool Unit AgentState (AgentCall AgentDecision),
      Pool.Run (Pool.ofPrograms RunsAgent StatusChange) Pool.anyStatement (Pool.idle {}) final ∧
      ¬(∀ past state reached, reached :: state :: past <:+ final.seen →
        ExecutesEnabled state reached) ∧
      ¬ValidatorAgrees (.reading escalationData) final.state := by
  refine ⟨statusDuringBackoff .disabled, statusDuringBackoff_run .disabled, ?_, ?_⟩
  · intro enabled
    have before : (statusDuringBackoff .disabled).past.head?.map (fun state =>
        (state.status "escalate_ticket", state.executions.length)) = some (.disabled, 1) := by
      decide +kernel
    have after : (statusDuringBackoff .disabled).state.executions.map Prod.fst =
        List.replicate 2 "escalate_ticket" := by
      decide +kernel
    obtain ⟨state, previous, facts⟩ := Option.map_eq_some_iff.mp before
    obtain ⟨disabled, once⟩ := Prod.mk.inj facts
    obtain ⟨past, earlier⟩ := List.head?_eq_some_iff.mp previous
    obtain ⟨executed, added, allowed⟩ := enabled past state (statusDuringBackoff .disabled).state
      (by rw [Pool.seen, earlier])
    have named : ∀ execution ∈ executed, execution.1 = "escalate_ticket" := by
      intro execution member
      refine List.eq_of_mem_replicate (after ▸ List.mem_map_of_mem ?_)
      rw [added]
      exact List.mem_append_right _ member
    have counted := congrArg List.length after
    rw [List.length_map, added, List.length_append, once, List.length_replicate] at counted
    obtain ⟨execution, rest, rfl⟩ := List.exists_cons_of_length_pos (l := executed) (by omega)
    have first := List.mem_cons_self (a := execution) (l := rest)
    exact allowed execution first (named execution first ▸ disabled)
  · rw [validator_agrees_iff]
    decide +kernel

end HelpForge.Chatbot
