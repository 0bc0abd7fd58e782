import HelpForge.Chatbot.Agent.Prompts
import HelpForge.Lib.Program

set_option autoImplicit false

/-!
# Executor of the tools

The state is what all runs share, together with records that no code reads.
-/

namespace HelpForge.Chatbot

open Lib

structure AgentState where
  call_count : Nat := 0
  statuses : Dict ToolStatus := []
  calls : List GatewayCall := []
  executions : List (String × Dict Value) := []
  results : List (Dict Value) := []
  written : List (String × Value) := []
  asked : List Prompt := []

abbrev ActionGateway := List GatewayCall → Except PyError Value

abbrev AgentCall (α : Type) := Program AgentState PyError α

def maxToolCallsPerRun : Nat := 3
def maxRetries : Nat := 2

def AgentState.status (state : AgentState) (name : String) : ToolStatus :=
  (state.statuses.lookup name).getD .active

def availableToolDescriptions (state : AgentState) : String :=
  "\n".intercalate (allTools.map fun tool => tool.toPromptDescription (state.status tool.name))

def agentValidator : AgentValidator where
  all_tool_names := allTools.map Tool.name
  active_tool_names := allTools.map Tool.name

def failure (text : String) (details : Dict Value) : Dict Value :=
  [("success", .bool false), ("error", .str text)] ++ details

def mocks (input : Dict Value) : Dict (Dict Value) :=
  let ticket_id := given "ticket_id" "[dry-run-ticket]"
  [("create_ticket", success
      [("ticket_id", .str "DRY-RUN-001"),
        ("ticket", .dict
          [("id", .str "DRY-RUN-001"), ("subject", given "subject" "[simulated]"),
            ("status", .str "OPEN"), ("priority", given "priority" "MEDIUM")])]),
    ("update_ticket", success
      [("ticket_id", ticket_id),
        ("updated_fields", .list ((input.filter fun field =>
          field.1 != "ticket_id" && field.1 != "org_id").map fun field => .str field.1)),
        ("ticket", .dict [("id", ticket_id), ("status", given "status" "OPEN")])]),
    ("fetch_ticket", success
      [("ticket", .dict
        [("id", ticket_id), ("org_id", given "org_id" "[dry-run-org]"),
          ("subject", .str "[simulated ticket subject]"), ("status", .str "OPEN"),
          ("priority", .str "MEDIUM"),
          ("comments", .list [.dict
            [("role", .str "user"), ("content", .str "[simulated comment]")]])])]),
    ("assign_agent", success
      [("ticket_id", ticket_id), ("assigned_to", given "agent_id" "[simulated-agent-id]"),
        ("result", .dict [("status", .str "IN_PROGRESS")])]),
    ("escalate_ticket", success
      [("ticket_id", ticket_id), ("urgency", given "urgency" "NORMAL"),
        ("result", .dict [("escalated", .bool true), ("notified", .bool true)])]),
    ("search_docs", success
      [("query", given "query" "[query]"), ("result_count", .int 3),
        ("results", .list
          [.dict [("excerpt", .str "[Simulated doc 1] — relevant knowledge base article")],
            .dict [("excerpt", .str "[Simulated doc 2] — related FAQ entry")],
            .dict [("excerpt", .str "[Simulated doc 3] — troubleshooting guide")]]),
        ("context", .str "[Simulated RAG context — 3 documents found]")]),
    ("summarize_ticket", success
      [("ticket_id", ticket_id),
        ("summary", .str ("[Simulated summary] User reported an issue. " ++
          "Multiple troubleshooting steps attempted. Resolution pending."))]),
    ("classify_ticket", success
      [("ticket_id", ticket_id), ("category", .str "Technical"),
        ("sub_category", .str "Bug Report"), ("severity", .str "MEDIUM"),
        ("classification", .dict [("confidence", .float (87 / 100))])])]
where
  given (key default : String) : Value := (input.lookup key).getD (.str default)

def simulate (state : AgentState) (name : String) (input : Dict Value) : Dict Value :=
  match findTool name with
  | none => failure ("Unknown tool: '" ++ name ++ "'") [("simulated", .bool true)]
  | some _ =>
    if state.status name = .disabled then
      failure ("Tool '" ++ name ++ "' is DISABLED")
        [("tool_status", .str "DISABLED"), ("simulated", .bool true)]
    else
      let result := ((mocks input).lookup name).getD
        (success [("simulated", .bool true), ("tool", .str name)])
      Dict.put (Dict.put result "simulated" (.bool true)) "_dry_run" (.bool true)

section Execution

variable (python : Python) (gateway : ActionGateway)

def send (call : GatewayCall) : StateM AgentState (Except PyError Value) := fun state =>
  let calls := state.calls ++ [call]
  (gateway calls, { state with calls })

/-- The tools raise nothing but `ToolExecutionError`. -/
def Tool.execute (tool : Tool) (input : Dict Value) :
    StateM AgentState (Except ToolExecutionError (Dict Value)) := do
  match tool.prepare python input with
  | .error error => return .error error
  | .ok request =>
    let answer ← send gateway request.call
    match answer >>= request.outcome with
    | .ok result => return .ok result
    | .error error => return .error ⟨tool.name, error.text, true⟩

def tryTool (tool : Tool) (input : Dict Value) :
    StateM AgentState (Except ToolExecutionError (Dict Value)) := do
  modify fun state => { state with
    call_count := state.call_count + 1
    executions := state.executions ++ [(tool.name, input)] }
  tool.execute python gateway input

def callLimitReached : Dict Value :=
  failure ("Tool call limit (" ++ toString maxToolCallsPerRun ++ ") reached for this run")
    [("retriable", .bool false)]

def firstTry (name : String) (input : Dict Value) :
    StateM AgentState
      (Except (Dict Value) (Tool × Except ToolExecutionError (Dict Value))) := fun state =>
  if maxToolCallsPerRun ≤ state.call_count then (.error callLimitReached, state)
  else
    match findTool name with
    | none =>
      (.error (failure ("Unknown tool: '" ++ name ++ "'") [("retriable", .bool false)]), state)
    | some tool =>
      if state.status name = .disabled then
        (.error (failure ("Tool '" ++ name ++ "' is currently DISABLED — choose an active tool")
          [("retriable", .bool false), ("tool_status", .str "DISABLED")]), state)
      else
        let (outcome, reached) := (tryTool python gateway tool input).run state
        (.ok (tool, outcome), reached)

def retry (tool : Tool) (input : Dict Value) :
    Nat → Except ToolExecutionError (Dict Value) → AgentCall (Dict Value)
  | _, .ok result => pure result
  | 0, .error error => pure (failure error.reason [("retriable", .bool error.retriable)])
  | left + 1, .error error =>
    if error.retriable then do
      let outcome ← Program.stretch (tryTool python gateway tool input)
      retry tool input left outcome
    else pure (failure error.reason [("retriable", .bool error.retriable)])

def execute (name : String) (input : Dict Value) : AgentCall (Dict Value) := do
  match ← Program.stretch (firstTry python gateway name input) with
  | .error refusal => pure refusal
  | .ok (tool, outcome) => retry python gateway tool input maxRetries outcome

variable {python gateway}

def Tool.sends (tool : Tool) (python : Python) (input : Dict Value) : List GatewayCall :=
  match tool.prepare python input with
  | .ok request => [request.call]
  | .error _ => []

def AgentState.attempted (state : AgentState) (python : Python) (tool : Tool)
    (input : Dict Value) (attempts : Nat) : AgentState :=
  { state with
    call_count := state.call_count + attempts
    executions := state.executions ++ List.replicate attempts (tool.name, input)
    calls := state.calls ++ (List.replicate attempts (tool.sends python input)).flatten }

theorem attempted_attempted (state : AgentState) (tool : Tool) (input : Dict Value)
    (first second : Nat) :
    (state.attempted python tool input first).attempted python tool input second =
      state.attempted python tool input (first + second) := by
  simp only [AgentState.attempted, Nat.add_assoc, List.append_assoc, List.replicate_append_replicate,
    ← List.flatten_append]

theorem run_tryTool (tool : Tool) (input : Dict Value) (state : AgentState) :
    (tryTool python gateway tool input).run state =
      (match tool.prepare python input with
        | .error error => .error error
        | .ok request => (gateway (state.calls ++ [request.call]) >>= request.outcome).mapError
            fun error => ⟨tool.name, error.text, true⟩,
        state.attempted python tool input 1) := by
  simp only [tryTool, Tool.execute, AgentState.attempted, Tool.sends]
  cases prepared : tool.prepare python input with
  | error error =>
    simp only [List.replicate_one, List.flatten_singleton, List.append_nil]
    rfl
  | ok request =>
    simp only [send, modify, modifyGet, MonadStateOf.modifyGet, StateT.run, bind, StateT.bind,
      StateT.modifyGet, pure, List.replicate_one, List.flatten_singleton, Except.mapError]
    cases (gateway (state.calls ++ [request.call])).bind request.outcome <;> rfl

theorem tryTool_state (tool : Tool) (input : Dict Value) (state : AgentState) :
    ((tryTool python gateway tool input).run state).2 = state.attempted python tool input 1 := by
  rw [run_tryTool]

theorem attempted_zero (state : AgentState) (tool : Tool) (input : Dict Value) :
    state.attempted python tool input 0 = state := by
  simp [AgentState.attempted]

section AgentState

variable (tool : Tool) (input : Dict Value) (left : Nat)
  (outcome : Except ToolExecutionError (Dict Value)) (state : AgentState)

theorem run_retry_settled (settled : ∀ error, outcome = .error error → error.retriable = false) :
    ∃ result, (retry python gateway tool input left outcome).run state = (.ok result, state) := by
  -- A result, or an error that no retry can mend, leaves no retry.
  cases outcome with
  | ok result => cases left <;> exact ⟨_, rfl⟩
  | error error =>
    have final := settled error rfl
    cases left with
    | zero => exact ⟨_, rfl⟩
    | succ left =>
      refine ⟨failure error.reason [("retriable", .bool error.retriable)], ?_⟩
      simp only [retry, final, Bool.false_eq_true, if_false, Program.run_pure]

theorem run_retry :
    ∃ result attempts, attempts ≤ left ∧
      (retry python gateway tool input left outcome).run state =
        (.ok result, state.attempted python tool input attempts) := by
  induction left generalizing outcome state with
  | zero =>
    cases outcome <;> exact ⟨_, 0, le_rfl, by rw [attempted_zero]; rfl⟩
  | succ left ih =>
    by_cases settled : ∀ error, outcome = .error error → error.retriable = false
    · obtain ⟨result, run⟩ := run_retry_settled tool input (left + 1) outcome state settled
      exact ⟨result, 0, by omega, by rw [attempted_zero, run]⟩
    obtain ⟨error, rfl, retriable⟩ : ∃ error, outcome = .error error ∧ error.retriable = true := by
      simpa using settled
    obtain ⟨result, attempts, few, run⟩ :=
      ih ((tryTool python gateway tool input).run state).1 (state.attempted python tool input 1)
    refine ⟨result, 1 + attempts, by omega, ?_⟩
    rw [attempted_attempted] at run
    simp only [retry, retriable, if_true, Program.run_bind, Program.run_stretch,
      tryTool_state, run]

end AgentState

def AgentState.runnable (state : AgentState) (name : String) : Option Tool :=
  if state.status name = .disabled then none else findTool name

theorem run_execute_refused (name : String) (input : Dict Value) (state : AgentState)
    (refused : state.call_count < maxToolCallsPerRun → state.runnable name = none) :
    ∃ result, (execute python gateway name input).run state = (.ok result, state) := by
  suffices ∃ refusal, (firstTry python gateway name input).run state = (.error refusal, state) by
    obtain ⟨refusal, first⟩ := this
    refine ⟨refusal, ?_⟩
    simp only [execute, Program.run_bind, Program.run_stretch, first, Program.run_pure]
  by_cases limit : maxToolCallsPerRun ≤ state.call_count
  · exact ⟨_, if_pos limit⟩
  have refused := refused (by omega)
  unfold AgentState.runnable at refused
  cases found : findTool name with
  | none =>
    simp only [firstTry, StateT.run, limit, if_false, found]
    exact ⟨_, rfl⟩
  | some tool =>
    have disabled : state.status name = .disabled := by
      by_contra enabled
      rw [if_neg enabled, found] at refused
      cases refused
    simp only [firstTry, StateT.run, limit, if_false, found, disabled, if_true]
    exact ⟨_, rfl⟩

section Runnable

variable (name : String) (input : Dict Value) (state : AgentState) (tool : Tool)
  (within : state.call_count < maxToolCallsPerRun) (runnable : state.runnable name = some tool)

include within runnable

theorem run_execute_first :
    (execute python gateway name input).run state =
      (retry python gateway tool input maxRetries
        ((tryTool python gateway tool input).run state).1).run
        (state.attempted python tool input 1) := by
  have below : ¬maxToolCallsPerRun ≤ state.call_count := by omega
  have first : (firstTry python gateway name input).run state =
      (.ok (tool, ((tryTool python gateway tool input).run state).1),
        state.attempted python tool input 1) := by
    unfold AgentState.runnable at runnable
    split_ifs at runnable with disabled
    have reached : ((tryTool python gateway tool input).run state).2 = _ :=
      tryTool_state tool input state
    simp only [firstTry, StateT.run, below, if_false, runnable, disabled] at reached ⊢
    rw [← reached]
    rfl
  simp only [execute, Program.run_bind, Program.run_stretch, first]

theorem run_execute_runnable :
    ∃ result attempts, attempts ≤ maxRetries ∧
      (execute python gateway name input).run state =
        (.ok result, state.attempted python tool input (1 + attempts)) := by
  rw [run_execute_first name input state tool within runnable]
  obtain ⟨result, attempts, few, run⟩ := run_retry tool input maxRetries
    ((tryTool python gateway tool input).run state).1 (state.attempted python tool input 1)
  rw [attempted_attempted] at run
  exact ⟨result, attempts, few, run⟩

end Runnable

end Execution

end HelpForge.Chatbot
