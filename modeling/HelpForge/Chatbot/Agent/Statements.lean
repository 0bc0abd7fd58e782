import HelpForge.Chatbot.Agent.Run
import HelpForge.Lib.Statements

set_option autoImplicit false

namespace HelpForge.Chatbot

open Lib

inductive AgentStatement (change : AgentState → AgentState) (state : AgentState) : Prop where
  | quiet (call_count : (change state).call_count = state.call_count)
      (executions : (change state).executions = state.executions)
  | enters (python : Python) (gateway : ActionGateway) (name : String) (input : Dict Value)
      (enter : change = fun state => ((firstTry python gateway name input).run state).2)
  | retries (python : Python) (gateway : ActionGateway) (tool : Tool) (input : Dict Value)
      (retry : change = fun state => ((tryTool python gateway tool input).run state).2)

structure AgentRule (rule : (AgentState → AgentState) → AgentState → Prop) : Prop where
  quiet : ∀ change state, (change state).call_count = state.call_count →
    (change state).executions = state.executions → (change state).calls = state.calls →
      rule change state
  enters : ∀ python gateway name input state,
    rule (fun state => ((firstTry python gateway name input).run state).2) state
  retries : ∀ python gateway tool input state,
    rule (fun state => ((tryTool python gateway tool input).run state).2) state

def runReset (python : Python) (outside : Surroundings) (inp : AgentInput) :
    AgentCall AgentDecision :=
  (runInner python outside inp).recover fun error =>
    write (buildFallbackDecision inp.mode ("Unhandled exception: " ++ error.name)) "error"
      (.str error.text)

theorem agentRun_eq (python : Python) (outside : Surroundings) (inp : AgentInput) :
    agentRun python outside inp =
      Program.modify (fun state => { state with call_count := 0 }) >>= fun _ =>
        runReset python outside inp := rfl

namespace AgentRule

variable {rule : (AgentState → AgentState) → AgentState → Prop} (holds : AgentRule rule)
  {python : Python} {outside : Surroundings} {inp : AgentInput}

include holds

theorem modify {change : AgentState → AgentState}
    (call_count : ∀ state, (change state).call_count = state.call_count)
    (executions : ∀ state, (change state).executions = state.executions)
    (calls : ∀ state, (change state).calls = state.calls) :
    (Program.modify change : AgentCall Unit).Each rule :=
  .modify fun state => holds.quiet change state (call_count state) (executions state) (calls state)

theorem reads {α : Type} (view : AgentState → α) :
    (Program.reads view : AgentCall α).Each rule :=
  .reads fun state => holds.quiet id state rfl rfl rfl

theorem retry (python : Python) (gateway : ActionGateway) (tool : Tool) (input : Dict Value)
    (left : Nat) (outcome : Except ToolExecutionError (Dict Value)) :
    (Chatbot.retry python gateway tool input left outcome).Each rule := by
  induction left generalizing outcome with
  | zero => cases outcome <;> exact .pure _
  | succ left ih =>
    cases outcome with
    | ok result => exact .pure result
    | error error =>
      rw [Chatbot.retry]
      split
      · exact .bind (.stretch fun state => holds.retries python gateway tool input state) ih
      · exact .pure _

theorem execute (python : Python) (gateway : ActionGateway) (name : String)
    (input : Dict Value) : (Chatbot.execute python gateway name input).Each rule := by
  refine .bind (.stretch fun state => holds.enters python gateway name input state) ?_
  intro first
  cases first with
  | error refusal => exact .pure refusal
  | ok entered => exact holds.retry python gateway entered.1 input maxRetries entered.2

theorem toolStep (name : String) (input : Dict Value) :
    (Chatbot.toolStep python outside inp name input).Each rule := by
  have recorded (result : Dict Value) : (do
      Program.modify fun state => { state with results := state.results ++ [result] }
      pure result : AgentCall (Dict Value)).Each rule :=
    .bind (holds.modify (fun _ => rfl) (fun _ => rfl) fun _ => rfl) fun _ => .pure result
  unfold Chatbot.toolStep
  split
  · exact .bind (holds.reads _) recorded
  · exact .bind (holds.execute python outside.gateway name input) recorded

theorem askModel (step : Nat) (prompt : Prompt) :
    (Chatbot.askModel python outside inp step prompt).Each rule :=
  .bind (holds.modify (fun _ => rfl) (fun _ => rfl) fun _ => rfl) fun _ => .done _

theorem write (decision : AgentDecision) (key : String) (value : Value) :
    (Chatbot.write decision key value).Each rule :=
  .bind (holds.modify (fun _ => rfl) (fun _ => rfl) fun _ => rfl) fun _ => .pure _

theorem conclude (turn : Turn) : (Chatbot.conclude python outside inp turn).Each rule := by
  refine .bind (holds.write _ _ _) fun decision => ?_
  split
  · exact holds.write _ _ _
  · exact .pure decision

theorem blocked (guard : GuardResult) : (Chatbot.blocked inp guard).Each rule := by
  unfold Chatbot.blocked
  dsimp only
  split
  · exact holds.write _ _ _
  · exact .pure _

theorem runGuarded (clean_query : String) :
    (Chatbot.runGuarded python outside inp clean_query).Each rule := by
  refine .bind (.done _) fun parts => .bind (holds.reads _) fun tools => ?_
  refine .bind (holds.askModel 0 _) fun said => .bind (.whileAtMost ?_ ?_ _ _) holds.conclude
  · intro turn
    refine .bind (holds.toolStep _ _) fun result => ?_
    exact .bind (holds.askModel _ _) fun said => .pure _
  · exact fun turn => .pure _

theorem runReset (python : Python) (outside : Surroundings) (inp : AgentInput) :
    (Chatbot.runReset python outside inp).Each rule := by
  have handled (error : PyError) : (Chatbot.write (buildFallbackDecision inp.mode
      ("Unhandled exception: " ++ error.name)) "error" (.str error.text)).Each rule :=
    holds.write _ _ _
  apply Program.Each.recover _ handled
  rw [runInner]
  cases (checkInput python inp.query).safe with
  | true => exact holds.runGuarded _
  | false => exact holds.blocked _

end AgentRule

theorem agentStatement_rule : AgentRule AgentStatement where
  quiet _ _ call_count executions _ := .quiet call_count executions
  enters python gateway name input _ := .enters python gateway name input rfl
  retries python gateway tool input _ := .retries python gateway tool input rfl

theorem each_runReset (python : Python) (outside : Surroundings) (inp : AgentInput) :
    (runReset python outside inp).Each AgentStatement :=
  agentStatement_rule.runReset python outside inp

section Entering

variable {python : Python} {gateway : ActionGateway}

theorem firstTry_cases (name : String) (input : Dict Value) (state : AgentState) :
    ((firstTry python gateway name input).run state).2 = state ∧
        (maxToolCallsPerRun ≤ state.call_count ∨ state.runnable name = none) ∨
      ∃ tool, state.call_count < maxToolCallsPerRun ∧ state.runnable name = some tool ∧
        ((firstTry python gateway name input).run state).2 =
          state.attempted python tool input 1 := by
  by_cases limit : maxToolCallsPerRun ≤ state.call_count
  · left
    simp only [firstTry, StateT.run, limit, if_true, true_or, and_true]
  unfold AgentState.runnable
  cases found : findTool name with
  | none =>
    left
    simp only [firstTry, StateT.run, limit, if_false, found, ite_self, or_true, and_true]
  | some tool =>
    by_cases disabled : state.status name = .disabled
    · left
      simp only [firstTry, StateT.run, limit, if_false, found, disabled, if_true, or_true, and_true]
    · right
      refine ⟨tool, by omega, by rw [if_neg disabled], ?_⟩
      have reached := @tryTool_state python gateway tool input state
      simp only [firstTry, StateT.run, limit, if_false, found, disabled] at reached ⊢
      exact reached

def Sends (state reached : AgentState) : Prop := state.calls <+: reached.calls

theorem sends_rule : AgentRule fun change state => Sends state (change state) where
  quiet change state _ _ calls := by
    unfold Sends
    rw [calls]
  enters python gateway name input state := by
    change Sends state ((firstTry python gateway name input).run state).2
    rcases @firstTry_cases python gateway name input state with ⟨same, -⟩ | ⟨tool, -, -, tried⟩
    · rw [same]
      exact List.prefix_rfl
    · rw [tried]
      exact List.prefix_append ..
  retries python gateway tool input state := by
    change Sends state ((tryTool python gateway tool input).run state).2
    rw [tryTool_state]
    exact List.prefix_append ..

theorem agentRun_sends (python : Python) (outside : Surroundings) (inp : AgentInput)
    (start : AgentState) : Sends start ((agentRun python outside inp).run start).2 := by
  have refl (state : AgentState) : Sends state state := List.prefix_rfl
  have trans (first second third : AgentState) (earlier : Sends first second)
      (later : Sends second third) : Sends first third := List.IsPrefix.trans earlier later
  rw [agentRun_eq, Program.run_bind, Program.run_modify]
  exact (sends_rule.runReset python outside inp).run refl trans (fun _ _ sends => sends)
    { start with call_count := 0 }

end Entering

/-! ### The playground -/

structure AgentRequest where
  org_id : String
  ticket_id : String
  mode : String
  query : String
  ticket_context : Dict Value := []
  rag_context : Option String := none
  history : Option (List (Dict Value)) := none
  extra : Dict Value := []

def AgentRequest.input (request : AgentRequest) (python : Python) (dry_run : Bool) :
    Except PyError AgentInput :=
  match [AgentMode.chat, .automation, .augmentation].find? (·.value == request.mode) with
  | none => .error ⟨"ValueError", python.repr request.mode ++ " is not a valid AgentMode"⟩
  | some mode => .ok { request with mode, dry_run }

structure PlaygroundReply where
  decision : AgentDecision
  trace : Value

def playgroundRun (python : Python) (outside : Surroundings) (request : AgentRequest) :
    AgentCall PlaygroundReply := do
  let inp ← Program.done (request.input python true)
  let decision ← agentRun python outside inp
  return ⟨decision, (decision.metadata.lookup "dry_run_trace").getD (.dict [])⟩

/-- A statement that reaches nothing outside the agent. -/
def Idle (change : AgentState → AgentState) (state : AgentState) : Prop :=
  (change state).calls = state.calls ∧ (change state).executions = state.executions ∧
    (change state).statuses = state.statuses

section Dry

variable {python : Python} {outside : Surroundings} {inp : AgentInput}

theorem write_idle (decision : AgentDecision) (key : String) (value : Value) :
    (write decision key value).Each Idle :=
  .bind (.modify fun _ => ⟨rfl, rfl, rfl⟩) fun _ => .pure _

theorem askModel_idle (step : Nat) (prompt : Prompt) :
    (askModel python outside inp step prompt).Each Idle :=
  .bind (.modify fun _ => ⟨rfl, rfl, rfl⟩) fun _ => .done _

theorem conclude_idle (turn : Turn) : (conclude python outside inp turn).Each Idle := by
  refine .bind (write_idle _ _ _) fun decision => ?_
  split
  · exact write_idle _ _ _
  · exact .pure decision

theorem blocked_idle (guard : GuardResult) : (blocked inp guard).Each Idle := by
  unfold blocked
  dsimp only
  split
  · exact write_idle _ _ _
  · exact .pure _

theorem toolStep_idle (dry : inp.dry_run = true) (name : String) (input : Dict Value) :
    (toolStep python outside inp name input).Each Idle := by
  unfold toolStep
  rw [if_pos dry]
  refine .bind (.reads fun _ => ⟨rfl, rfl, rfl⟩) fun result => ?_
  exact .bind (.modify fun _ => ⟨rfl, rfl, rfl⟩) fun _ => .pure result

theorem runGuarded_idle (dry : inp.dry_run = true) (clean_query : String) :
    (runGuarded python outside inp clean_query).Each Idle := by
  refine .bind (.done _) fun parts => .bind (.reads fun _ => ⟨rfl, rfl, rfl⟩) fun tools => ?_
  refine .bind (askModel_idle 0 _) fun said => .bind (.whileAtMost ?_ ?_ _ _) conclude_idle
  · intro turn
    refine .bind (toolStep_idle dry _ _) fun result => ?_
    exact .bind (askModel_idle _ _) fun said => .pure _
  · exact fun turn => .pure _

theorem agentRun_idle (dry : inp.dry_run = true) : (agentRun python outside inp).Each Idle := by
  refine .bind (.modify fun _ => ⟨rfl, rfl, rfl⟩) fun _ => .recover ?_ fun error => write_idle _ _ _
  rw [runInner]
  cases (checkInput python inp.query).safe with
  | true => exact runGuarded_idle dry _
  | false => exact blocked_idle _

end Dry

/-- Beside whatever other runs, at any point of any schedule: the turns of a playground run send
nothing to the gateway and execute no tool, whatever the model asks for. -/
theorem playground_reaches_nothing {κ α : Type} [DecidableEq κ] (python : Python)
    (outside : Surroundings) (request : AgentRequest) (answer : PlaygroundReply → α)
    (programs : κ → AgentCall α) (call : κ)
    (own : programs call = (do return answer (← playgroundRun python outside request)))
    (moves : List (Pool.Move κ AgentState)) (start : AgentState) :
    let before := Pool.play Program.advance programs moves (Pool.idle start)
    let after := Pool.turn Program.advance programs before call
    after.state.calls = before.state.calls ∧ after.state.executions = before.state.executions ∧
      after.state.statuses = before.state.statuses := by
  have each : (programs call).Each Idle := by
    have dry : ∀ inp, request.input python true = .ok inp → inp.dry_run = true := by
      unfold AgentRequest.input
      split <;> rintro inp ⟨⟩
      rfl
    rw [own]
    refine .bind ?_ fun reply => .pure _
    unfold playgroundRun
    cases read : request.input python true with
    | error error => trivial
    | ok inp =>
      change (agentRun python outside inp >>= _).Each Idle
      exact .bind (agentRun_idle (dry inp read)) fun decision => .pure _
  intro before after
  have stands : ∀ program, before.calls call = some program → program.Each Idle :=
    Pool.play_stands (fun change next within state => (within state).2) each moves
  rcases Pool.turn_cases programs before call with same | ⟨change, next, running, turned⟩
  · simp only [after, same, and_self]
  · simp only [after, turned]
    exact (stands _ running before.state).1

theorem first_turn_reaches_nothing :
    let outside : Surroundings :=
      { generate := fun _ _ => .error ⟨"RuntimeError", "no model"⟩
        gateway := fun _ => .error ⟨"ConnectError", "no gateway"⟩ }
    let request : AgentRequest := { org_id := "A", ticket_id := "t1", mode := "chat", query := "Hi" }
    let programs (_ : Unit) : AgentCall PlaygroundReply := do
      return id (← playgroundRun (.reading .none) outside request)
    let before := Pool.play Program.advance programs [] (Pool.idle {})
    let after := Pool.turn Program.advance programs before ()
    after.state.calls = before.state.calls ∧ after.state.executions = before.state.executions ∧
      after.state.statuses = before.state.statuses :=
  playground_reaches_nothing (.reading .none) _ _ id _ () rfl [] {}

end HelpForge.Chatbot
