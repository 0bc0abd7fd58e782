import HelpForge.Chatbot.Agent.Executor
import HelpForge.Chatbot.Agent.Metrics
import HelpForge.Chatbot.Guardrails
import HelpForge.Lib.Loop

set_option autoImplicit false

/-!
# A run of the unified agent

The model is an oracle: what the n-th decision call gives for its prompt, or how it fails.
-/

namespace HelpForge.Chatbot

open Lib

/-- What a run meets: the language model, the answers of the gateway, what the retrieval
makes of a query (how many documents, and the text or the exception), the memory of a ticket
up to a limit, and how many seconds each timed stretch takes. -/
structure Surroundings where
  generate : Nat → Prompt → Except PyError Value
  gateway : ActionGateway
  retrieve : String → String → Nat × Except PyError String := fun _ _ => (0, .ok "")
  recentMessages : String → String → Value → Except PyError (List (Dict Value)) :=
    fun _ _ _ => .ok []
  elapsed : String → Rat := fun _ => 0

def maxAgentSteps : Nat := 5

structure Turn where
  decision : AgentDecision
  agent_step : Nat
  tool_calls : Nat
  metrics : MetricsCollector
  trace_steps : List DryRunStep

/-- The loop goes on: `decision.action == TOOL_CALL and decision.tool`. -/
def AgentDecision.wantsTool (decision : AgentDecision) : Bool :=
  decision.action == .tool_call && decision.tool.any (· != "")

section Agent

variable (python : Python) (outside : Surroundings) (inp : AgentInput)

def readReply (reply : Value) : Except PyError (Value × AgentDecision) := do
  let tokens ← (← reply.get "usage" (.dict [])).get "tokensUsed" (.int 0)
  let content ← reply.get "content" (.str "")
  let decision ← parseAndValidate python agentValidator inp.mode content
  return (tokens, decision)

def askModel (step : Nat) (prompt : Prompt) : AgentCall (Value × AgentDecision) := do
  Program.modify fun state => { state with asked := state.asked ++ [prompt] }
  Program.done (outside.generate step prompt >>= readReply python inp)

def decisionStep (step : Nat) (step_type : String) (decision : AgentDecision)
    (latency_ms : Value) : DryRunStep where
  step := step
  step_type := step_type
  action := some decision.action.value
  confidence := some decision.confidence
  reasoning := some decision.reasoning
  message := some decision.message
  tool := decision.tool
  tool_input := if decision.tool_input.isEmpty then none else some decision.tool_input
  latency_ms := some latency_ms

def traced (steps : List DryRunStep) (step : DryRunStep) : List DryRunStep :=
  -- A step of the trace, which only a dry run keeps.
  if inp.dry_run then steps ++ [step] else steps

def latency (name : String) : Value := MetricsCollector.milliseconds (outside.elapsed name)

def toolStep (name : String) (input : Dict Value) : AgentCall (Dict Value) := do
  let result ←
    if inp.dry_run then Program.reads fun state => simulate state name input
    else execute python outside.gateway name input
  Program.modify fun state => { state with results := state.results ++ [result] }
  pure result

def nextTurn (turn : Turn) (result : Dict Value) (tokens : Value) (decision : AgentDecision) :
    Turn :=
  let name := turn.decision.tool.getD ""
  let cost := ((findTool name).map fun tool => tool.cost.value).getD "UNKNOWN"
  let timer := "tool_" ++ name ++ "_" ++ toString turn.agent_step
  let step := turn.agent_step + 1
  let metrics := (turn.metrics.timed timer (outside.elapsed timer)).increment "tool_calls"
  let trace_steps := traced inp turn.trace_steps
    { step := step, step_type := "tool_simulated", tool := some name
      tool_input := some turn.decision.tool_input, tool_cost := some cost
      simulated_result := some result
      latency_ms := some (latency outside ("tool_ms_" ++ toString step)) }
  let timer := "llm_step_" ++ toString step
  let metrics := (metrics.timed timer (outside.elapsed timer)).record
    ("llm_tokens_step_" ++ toString step) tokens
  -- only where the output has no result of its own
  let decision := { decision with tool_result := decision.tool_result.or (some result) }
  let trace_steps := traced inp trace_steps
    (decisionStep step "llm_followup" decision (latency outside ("llm_ms_" ++ toString step)))
  { decision, agent_step := step, tool_calls := turn.tool_calls + 1, metrics, trace_steps }

def pass (first : Prompt) (turn : Turn) : AgentCall Turn := do
  let name := turn.decision.tool.getD ""
  let result ← toolStep python outside inp name turn.decision.tool_input
  let step := turn.agent_step + 1
  let (tokens, decision) ←
    askModel python outside inp step (buildFollowupMessages python inp first name result step)
  pure (nextTurn outside inp turn result tokens decision)

def stepLimitReason : String :=
  "Max agent steps (" ++ toString maxAgentSteps ++ ") reached without resolution"

def stepLimit (turn : Turn) : AgentCall Turn :=
  pure { turn with
    decision := buildFallbackDecision inp.mode stepLimitReason
    metrics := turn.metrics.increment "step_limit_hit"
    trace_steps := traced inp turn.trace_steps
      { step := turn.agent_step + 1, step_type := "step_limit"
        detail := some ("MAX_AGENT_STEPS (" ++ toString maxAgentSteps ++
          ") reached — escalating") } }

/-- `decision.metadata[key] = value`. -/
def write (decision : AgentDecision) (key : String) (value : Value) :
    AgentCall AgentDecision := do
  Program.modify fun state => { state with written := state.written ++ [(key, value)] }
  pure { decision with metadata := Dict.put decision.metadata key value }

def buildTrace (steps : List DryRunStep) (final : AgentDecision) : DryRunTrace where
  mode := inp.mode.value
  org_id := inp.org_id
  ticket_id := inp.ticket_id
  query := inp.query
  steps := steps
  final_action := final.action.value
  final_confidence := final.confidence
  final_message := final.message

def emitMetrics (metrics : MetricsCollector) (decision : AgentDecision)
    (tool_calls agent_steps : Nat) : Dict Value :=
  metrics.emit
    [("org_id", .str inp.org_id), ("ticket_id", .str inp.ticket_id),
      ("mode", .str inp.mode.value), ("action", .str decision.action.value),
      ("confidence", .float decision.confidence), ("tool_calls", .int tool_calls),
      ("agent_steps", .int agent_steps), ("tool", dumped .str decision.tool)]

def simulatedTools (steps : List DryRunStep) : List String :=
  (steps.filter fun step => step.step_type = "tool_simulated").filterMap fun step =>
    step.tool.filter (· != "")

def guarded (decision : AgentDecision) : AgentDecision :=
  { decision with message := (checkOutput python decision.message).safe_value }

def finalMetrics (turn : Turn) : Dict Value :=
  let metrics := turn.metrics.timed "guard_output" (outside.elapsed "guard_output")
  let metrics :=
    if (checkOutput python turn.decision.message).safe then metrics
    else metrics.increment "output_violation"
  emitMetrics inp metrics (guarded python turn.decision) turn.tool_calls turn.agent_step

def finalTrace (turn : Turn) : DryRunTrace :=
  { buildTrace inp turn.trace_steps (guarded python turn.decision) with
    total_latency_ms := latency outside "run"
    total_llm_calls := turn.agent_step + 1
    total_tool_calls := turn.tool_calls
    simulated_tools := simulatedTools turn.trace_steps }

def conclude (turn : Turn) : AgentCall AgentDecision := do
  let decision ← write (guarded python turn.decision) "metrics"
    (.dict (finalMetrics python outside inp turn))
  if inp.dry_run then
    write decision "dry_run_trace" (finalTrace python outside inp turn).modelDump
  else pure decision

def blocked (guard : GuardResult) : AgentCall AgentDecision := do
  let fallback := buildFallbackDecision inp.mode ("Input blocked: " ++ guard.reason)
  let decision :=
    if guard.safe_value = "" then fallback else { fallback with message := guard.safe_value }
  if inp.dry_run then
    let steps : List DryRunStep :=
      [{ step := 0, step_type := "guard_block", detail := some ("Input blocked: " ++ guard.reason) }]
    write decision "dry_run_trace" (buildTrace inp steps decision).modelDump
  else pure decision

def memoryWindow : Int := 10

def buildContext (clean_query : String) : AgentContext where
  rag_context_text := inp.rag_context.getD
    (match (outside.retrieve inp.org_id clean_query).2 with
      | .ok text => text
      | .error _ => "(retrieval unavailable)")
  history := inp.history.getD
    (match outside.recentMessages inp.org_id inp.ticket_id
        ((inp.ticket_context.lookup "context_window").getD (.int memoryWindow)) with
      | .ok messages => messages
      | .error _ => [])

def contextMetrics (clean_query : String) : MetricsCollector :=
  let metrics := ({} : MetricsCollector).timed "guard_input" (outside.elapsed "guard_input")
  let metrics :=
    if inp.rag_context.isSome then metrics
    else (metrics.timed "retrieval" (outside.elapsed "retrieval")).record "rag_docs"
      (.int (outside.retrieve inp.org_id clean_query).1)
  let metrics :=
    if inp.history.isSome then metrics
    else metrics.timed "memory_read" (outside.elapsed "memory_read")
  metrics.timed "context_build" (outside.elapsed "context_build")

def firstTurn (clean_query : String) (tokens : Value) (decision : AgentDecision) : Turn where
  decision := decision
  agent_step := 0
  tool_calls := 0
  metrics := ((contextMetrics outside inp clean_query).timed "llm_step_0"
    (outside.elapsed "llm_step_0")).record "llm_tokens" tokens
  trace_steps := traced inp []
    (decisionStep 0 "llm_decision" decision (latency outside "llm_ms_0"))

def runGuarded (clean_query : String) : AgentCall AgentDecision := do
  let parts ← Program.done (promptParts python inp (buildContext outside inp clean_query))
  let tools ← Program.reads availableToolDescriptions
  let first := buildMessages python inp parts tools
  let (tokens, decision) ← askModel python outside inp 0 first
  let turn ← Program.whileAtMost (fun turn : Turn => turn.decision.wantsTool)
    (pass python outside inp first) (stepLimit inp) maxAgentSteps
    (firstTurn outside inp clean_query tokens decision)
  conclude python outside inp turn

def runInner : AgentCall AgentDecision :=
  let guard := checkInput python inp.query
  if guard.safe then runGuarded python outside inp guard.safe_value else blocked inp guard

/-- `UnifiedAgent.run`. -/
def agentRun : AgentCall AgentDecision := do
  Program.modify fun state => { state with call_count := 0 }
  (runInner python outside inp).recover fun error =>
    write (buildFallbackDecision inp.mode ("Unhandled exception: " ++ error.name)) "error"
      (.str error.text)

end Agent

theorem agentRun_returns {python : Python} {inp : AgentInput} (outside : Surroundings)
    (start : AgentState) :
    ∃ decision final, (agentRun python outside inp).run start = (.ok decision, final) := by
  simp only [agentRun, Program.run_bind, Program.run_modify, Program.run_recover]
  rcases (runInner python outside inp).run { start with call_count := 0 } with
    ⟨error | decision, reached⟩
  · exact ⟨_, _, rfl⟩
  · exact ⟨decision, reached, rfl⟩

end HelpForge.Chatbot
