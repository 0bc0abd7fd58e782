import HelpForge.Chatbot.Agent.Run
import HelpForge.Lib.Purge

set_option autoImplicit false

namespace HelpForge.Chatbot

open Lib

def callsFor (org_id : String) (calls : List GatewayCall) : List GatewayCall :=
  calls.filter fun call => call.orgId.bind Value.asStr = some org_id

def promptsFor (org_id : String) (asked : List Prompt) : List Prompt :=
  asked.filter fun prompt => prompt.org_id = org_id

def ActionGateway.Separates (gateway : ActionGateway) : Prop :=
  -- What the gateway answers for an organisation depends on the requests made for it.
  ∀ org_id calls others call, call.orgId = some (.str org_id) →
    callsFor org_id calls = callsFor org_id others →
      gateway (calls ++ [call]) = gateway (others ++ [call])

def AgentDecision.NamesOnly (python : Python) (org_id : String) (decision : AgentDecision) : Prop :=
  -- The requests that the tool of a decision can lead to are made for the organisation.
  ∀ tool, findTool (decision.tool.getD "") = some tool →
    ∀ call ∈ tool.sends python decision.tool_input, call.orgId = some (.str org_id)

def Surroundings.KeepsTo (python : Python) (outside : Surroundings) : Prop :=
  ∀ inp step prompt answer tokens decision, outside.generate step prompt = .ok answer →
    readReply python inp answer = .ok (tokens, decision) →
      decision.NamesOnly python prompt.org_id

inductive AgentFact where
  | statuses
  | call_count
  | calls (org_id : String)
  | asked (org_id : String)

def AgentFact.Shared : AgentFact → AgentState → AgentState → Prop
  | .statuses, left, right => left.statuses = right.statuses
  | .call_count, left, right => left.call_count = right.call_count
  | .calls org_id, left, right => callsFor org_id left.calls = callsFor org_id right.calls
  | .asked org_id, left, right => promptsFor org_id left.asked = promptsFor org_id right.asked

theorem AgentFact.equivalence (fact : AgentFact) : Equivalence fact.Shared := by
  cases fact <;> exact ⟨fun _ => rfl, Eq.symm, Eq.trans⟩

/-- What a run for the organisation goes by, apart from the counter. -/
structure SameFor (org_id : String) (left right : AgentState) : Prop where
  statuses : left.statuses = right.statuses
  calls : callsFor org_id left.calls = callsFor org_id right.calls

structure OnlyFor (org_id : String) (state reached : AgentState) : Prop where
  statuses : state.statuses = reached.statuses
  calls : ∀ other, other ≠ org_id → callsFor other state.calls = callsFor other reached.calls
  asked : ∀ other, other ≠ org_id → promptsFor other state.asked = promptsFor other reached.asked

def Counting (fact : AgentFact) : Prop := fact = .call_count

abbrev ConfinedTo (org_id : String) {α : Type} (post : α → Prop) (call : AgentCall α)
    (known : AgentFact → Prop) : Prop :=
  call.GoesBy AgentFact.Shared (SameFor org_id) (OnlyFor org_id) post known

theorem OnlyFor.of_fields {org_id : String} {state reached : AgentState}
    (fields : (reached.statuses, reached.calls, reached.asked) =
      (state.statuses, state.calls, state.asked)) : OnlyFor org_id state reached := by
  simp only [Prod.mk.injEq] at fields
  obtain ⟨statuses, calls, asked⟩ := fields
  exact ⟨statuses.symm, fun _ _ => by rw [calls], fun _ _ => by rw [asked]⟩

theorem callsFor_append (org_id : String) (calls made : List GatewayCall) :
    callsFor org_id (calls ++ made) = callsFor org_id calls ++ callsFor org_id made :=
  List.filter_append ..

theorem promptsFor_append (org_id : String) (asked made : List Prompt) :
    promptsFor org_id (asked ++ made) = promptsFor org_id asked ++ promptsFor org_id made :=
  List.filter_append ..

theorem callsFor_own {org_id other : String} {made : List GatewayCall} (differs : other ≠ org_id)
    (own : ∀ call ∈ made, call.orgId = some (.str org_id)) : callsFor other made = [] := by
  unfold callsFor
  rw [List.filter_eq_nil_iff]
  intro call member
  simp [own call member, Value.asStr, differs.symm]

section Secrecy

variable {python : Python} {outside : Surroundings} {org_id : String}
  {known : AgentFact → Prop}

theorem AgentFact.Shared.sent {fact : AgentFact} {left right left' right' : AgentState}
    (made : List GatewayCall) (shared : fact.Shared left right)
    (fields : (left'.statuses, left'.asked, left'.calls) =
      (left.statuses, left.asked, left.calls ++ made))
    (fields' : (right'.statuses, right'.asked, right'.calls) =
      (right.statuses, right.asked, right.calls ++ made))
    (counted : left.call_count = right.call_count → left'.call_count = right'.call_count) :
    fact.Shared left' right' := by
  simp only [Prod.mk.injEq] at fields fields'
  obtain ⟨statuses, asked, calls⟩ := fields
  obtain ⟨statuses', asked', calls'⟩ := fields'
  cases fact with
  | statuses => exact statuses.trans (Eq.trans shared statuses'.symm)
  | call_count => exact counted shared
  | calls org_id =>
    have before : callsFor org_id left.calls = callsFor org_id right.calls := shared
    simp only [Shared, calls, calls', callsFor_append, before]
  | asked org_id =>
    simp only [Shared, asked, asked']
    exact shared

theorem OnlyFor.sent {state reached : AgentState} (made : List GatewayCall)
    (own : ∀ call ∈ made, call.orgId = some (.str org_id))
    (fields : (reached.statuses, reached.asked, reached.calls) =
      (state.statuses, state.asked, state.calls ++ made)) : OnlyFor org_id state reached := by
  simp only [Prod.mk.injEq] at fields
  obtain ⟨statuses, asked, calls⟩ := fields
  refine ⟨statuses.symm, ?_, fun _ _ => by rw [asked]⟩
  intro other differs
  rw [calls, callsFor_append, callsFor_own differs own, List.append_nil]

section Execution

variable (separates : outside.gateway.Separates)

include separates

theorem tryTool_same (tool : Tool) (input : Dict Value)
    (own : ∀ call ∈ tool.sends python input, call.orgId = some (.str org_id))
    {left right : AgentState} (same : SameFor org_id left right) :
    ((tryTool python outside.gateway tool input).run left).1 =
        ((tryTool python outside.gateway tool input).run right).1 ∧
      ∀ fact : AgentFact, fact.Shared left right →
        fact.Shared ((tryTool python outside.gateway tool input).run left).2
          ((tryTool python outside.gateway tool input).run right).2 := by
  rw [run_tryTool, run_tryTool]
  refine ⟨?_, fun fact shared => shared.sent (tool.sends python input) ?_ ?_ ?_⟩
  · cases prepared : tool.prepare python input with
    | error error => rfl
    | ok request =>
      have sent : tool.sends python input = [request.call] := by
        rw [Tool.sends, prepared]
      have named := own request.call (by rw [sent]; exact List.mem_singleton.mpr rfl)
      have answer := separates org_id left.calls right.calls request.call named same.calls
      simp only [answer]
  · simp [AgentState.attempted]
  · simp [AgentState.attempted]
  · intro counted
    simp [AgentState.attempted, counted]

omit separates in
theorem tryTool_only (tool : Tool) (input : Dict Value)
    (own : ∀ call ∈ tool.sends python input, call.orgId = some (.str org_id))
    (state : AgentState) :
    OnlyFor org_id state ((tryTool python outside.gateway tool input).run state).2 := by
  rw [run_tryTool]
  refine OnlyFor.sent (tool.sends python input) own ?_
  simp [AgentState.attempted]

theorem retry_confined (tool : Tool) (input : Dict Value)
    (own : ∀ call ∈ tool.sends python input, call.orgId = some (.str org_id)) (retries : Nat)
    (outcome : Except ToolExecutionError (Dict Value)) :
    ConfinedTo org_id (fun _ => True) (retry python outside.gateway tool input retries outcome)
      known := by
  induction retries generalizing outcome with
  | zero => cases outcome <;> exact .pure trivial
  | succ retries ih =>
    cases outcome with
    | ok result => exact .pure trivial
    | error error =>
      by_cases retriable : error.retriable = true
      · simp only [retry, retriable, if_true]
        have tried : ConfinedTo org_id (fun _ => True)
            (Program.stretch (tryTool python outside.gateway tool input)) known :=
          .stretch (fun left right same _ => tryTool_same separates tool input own same)
            (tryTool_only tool input own) fun _ => trivial
        exact tried.bind fun outcome _ => ih outcome
      · simp only [retry, retriable, if_false, Bool.false_eq_true]
        exact .pure trivial

variable (name : String) (input : Dict Value)

theorem firstTry_same
    (own : ∀ tool, findTool name = some tool →
      ∀ call ∈ tool.sends python input, call.orgId = some (.str org_id)) {left right : AgentState}
    (same : SameFor org_id left right) (counted : left.call_count = right.call_count) :
    ((firstTry python outside.gateway name input).run left).1 =
        ((firstTry python outside.gateway name input).run right).1 ∧
      ∀ fact : AgentFact, fact.Shared left right →
        fact.Shared ((firstTry python outside.gateway name input).run left).2
          ((firstTry python outside.gateway name input).run right).2 := by
  have status : left.status name = right.status name := by
    rw [AgentState.status, AgentState.status, same.statuses]
  simp only [firstTry, StateT.run, ← counted, ← status]
  by_cases limit : maxToolCallsPerRun ≤ left.call_count
  · simp [limit]
  simp only [limit, if_false]
  cases found : findTool name with
  | none => simp
  | some tool =>
    by_cases disabled : left.status name = .disabled
    · simp [disabled]
    have tried := tryTool_same separates tool input (own tool found) same
    simp only [disabled, if_false]
    exact ⟨congrArg (fun outcome => Except.ok (tool, outcome)) tried.1, tried.2⟩

omit separates in
theorem firstTry_only (name : String) (input : Dict Value)
    (own : ∀ tool, findTool name = some tool →
      ∀ call ∈ tool.sends python input, call.orgId = some (.str org_id))
    (state : AgentState) :
    OnlyFor org_id state ((firstTry python outside.gateway name input).run state).2 ∧
      ∀ tool outcome, ((firstTry python outside.gateway name input).run state).1 =
        .ok (tool, outcome) → findTool name = some tool := by
  simp only [firstTry, StateT.run]
  by_cases limit : maxToolCallsPerRun ≤ state.call_count
  · simp only [limit, if_true]
    exact ⟨.of_fields rfl, by rintro _ _ ⟨⟩⟩
  simp only [limit, if_false]
  cases found : findTool name with
  | none => exact ⟨.of_fields rfl, by rintro _ _ ⟨⟩⟩
  | some tool =>
    by_cases disabled : state.status name = .disabled
    · simp only [disabled, if_true]
      exact ⟨.of_fields rfl, by rintro _ _ ⟨⟩⟩
    simp only [disabled, if_false]
    refine ⟨tryTool_only tool input (own tool found) state, ?_⟩
    intro tool' outcome made
    cases made
    rfl

theorem execute_confined
    (own : ∀ tool, findTool name = some tool →
      ∀ call ∈ tool.sends python input, call.orgId = some (.str org_id)) :
    ConfinedTo org_id (fun _ => True) (execute python outside.gateway name input) Counting := by
  have started : ConfinedTo org_id
      (fun first => ∀ tool outcome, first = .ok (tool, outcome) → findTool name = some tool)
      (Program.stretch (firstTry python outside.gateway name input)) Counting :=
    .stretch
      (fun left right same agree =>
        firstTry_same separates name input own same (agree .call_count rfl))
      (fun state => (firstTry_only name input own state).1)
      fun state => (firstTry_only name input own state).2
  refine started.bind ?_
  rintro (refusal | ⟨tool, outcome⟩) registered
  · exact .pure trivial
  · exact retry_confined separates tool input (own tool (registered tool outcome rfl))
      maxRetries outcome

end Execution

theorem recorded_confined (change : AgentState → AgentState)
    (fields : ∀ state, ((change state).statuses, (change state).calls, (change state).asked,
      (change state).call_count) =
        (state.statuses, state.calls, state.asked, state.call_count)) :
    ConfinedTo org_id (fun _ => True) (Program.modify change) known := by
  refine .modify ?_ ?_ trivial
  · intro left right _ fact shared
    have one := fields left
    have other := fields right
    simp only [Prod.mk.injEq] at one other
    obtain ⟨statuses, calls, asked, call_count⟩ := one
    obtain ⟨statuses', calls', asked', call_count'⟩ := other
    cases fact <;> simpa only [AgentFact.Shared, statuses, statuses', calls, calls', asked, asked',
      call_count, call_count'] using shared
  · intro state
    have one := fields state
    simp only [Prod.mk.injEq] at one
    obtain ⟨statuses, calls, asked, -⟩ := one
    exact .of_fields (by rw [statuses, calls, asked])

theorem reads_confined {α : Type} (view : AgentState → α)
    (same : ∀ left right, left.statuses = right.statuses → view left = view right) :
    ConfinedTo org_id (fun _ => True) (Program.reads view) known :=
  .reads (fun _ => .of_fields rfl) (fun left right need _ => same left right need.statuses)
    fun _ => trivial

theorem asked_confined (prompt : Prompt) (asking : prompt.org_id = org_id) :
    ConfinedTo org_id (fun _ => True)
      (Program.modify fun state => { state with asked := state.asked ++ [prompt] }) known := by
  refine .modify ?_ ?_ trivial
  · intro left right _ fact shared
    cases fact with
    | asked other =>
      have before : promptsFor other left.asked = promptsFor other right.asked := shared
      simp only [AgentFact.Shared, promptsFor_append, before]
    | _ => exact shared
  · intro state
    refine ⟨rfl, fun _ _ => rfl, fun other differs => ?_⟩
    have none : promptsFor other [prompt] = [] := by
      simp [promptsFor, asking, differs.symm]
    simp only [promptsFor_append, none, List.append_nil]

theorem askModel_confined (inp : AgentInput) (keeps : outside.KeepsTo python) (step : Nat)
    (prompt : Prompt) (asking : prompt.org_id = org_id) :
    ConfinedTo org_id (fun answer => answer.2.NamesOnly python org_id)
      (askModel python outside inp step prompt) known := by
  refine (asked_confined prompt asking).bind fun _ _ => .done ?_
  rintro ⟨tokens, decision⟩ said
  cases answered : outside.generate step prompt with
  | error error => simp [answered, bind, Except.bind] at said
  | ok answer =>
    simp only [answered, bind, Except.bind] at said
    exact asking ▸ keeps inp step prompt answer tokens decision answered said

section Run

variable (inp : AgentInput) (separates : outside.gateway.Separates)
  (keeps : outside.KeepsTo python)

theorem write_confined (decision : AgentDecision) (key : String) (value : Value) :
    ConfinedTo org_id (fun _ => True) (write decision key value) known := by
  refine (recorded_confined _ ?_).bind ?_
  · intro state
    rfl
  · intro _ _
    exact .pure trivial

include separates in
theorem toolStep_confined (name : String) (input : Dict Value)
    (own : ∀ tool, findTool name = some tool →
      ∀ call ∈ tool.sends python input, call.orgId = some (.str org_id)) :
    ConfinedTo org_id (fun _ => True) (toolStep python outside inp name input) Counting := by
  have noted (result : Dict Value) : ConfinedTo org_id (fun _ => True)
      (do
        Program.modify fun state => { state with results := state.results ++ [result] }
        pure result) Counting := by
    refine (recorded_confined _ ?_).bind ?_
    · intro state
      rfl
    · intro _ _
      exact .pure trivial
  cases dry : inp.dry_run with
  | true =>
    simp only [toolStep, dry, if_true]
    refine (reads_confined _ ?_).bind fun result _ => noted result
    intro left right same
    unfold simulate AgentState.status
    rw [same]
  | false =>
    simp only [toolStep, dry, if_false, Bool.false_eq_true]
    exact (execute_confined separates name input own).bind fun result _ => noted result

include separates keeps in
theorem pass_confined (first : Prompt) (asking : first.org_id = org_id) (turn : Turn)
    (named : turn.decision.NamesOnly python org_id) :
    ConfinedTo org_id
      (fun turn => turn.decision.wantsTool = true → turn.decision.NamesOnly python org_id)
      (pass python outside inp first turn) Counting := by
  refine (toolStep_confined inp separates _ _ named).bind fun result _ => ?_
  refine (askModel_confined inp keeps (turn.agent_step + 1) _ ?_).bind ?_
  · exact asking
  · intro answer named' 
    exact .pure fun _ => named'

include separates keeps in
theorem passes_confined (first : Prompt) (asking : first.org_id = org_id) (turn : Turn)
    (named : turn.decision.NamesOnly python org_id) :
    ConfinedTo org_id
      (fun turn => turn.decision.wantsTool = true → turn.decision.NamesOnly python org_id)
      (Program.whileAtMost (fun turn : Turn => turn.decision.wantsTool)
        (pass python outside inp first) (stepLimit inp) maxAgentSteps turn) Counting := by
  refine .whileAtMost ?_ ?_ _ _ fun _ => named
  · intro turn named wants
    exact pass_confined inp separates keeps first asking turn (named wants)
  · intro turn _
    exact .pure nofun

theorem conclude_confined (turn : Turn) :
    ConfinedTo org_id (fun _ => True) (conclude python outside inp turn) known := by
  refine (write_confined _ _ _).bind fun decision _ => ?_
  split
  · exact write_confined _ _ _
  · exact .pure trivial

theorem blocked_confined (guard : GuardResult) :
    ConfinedTo org_id (fun _ => True) (blocked inp guard) known := by
  unfold blocked
  dsimp only
  split
  · exact write_confined _ _ _
  · exact .pure trivial

include separates keeps

theorem runGuarded_confined (own : inp.org_id = org_id) (clean_query : String) :
    ConfinedTo org_id (fun _ => True) (runGuarded python outside inp clean_query) Counting := by
  unfold runGuarded
  cases promptParts python inp (buildContext outside inp clean_query) with
  | error error => exact .fail error
  | ok parts =>
    refine (reads_confined availableToolDescriptions ?_).bind fun tools _ => ?_
    · intro left right same
      simp only [availableToolDescriptions, AgentState.status, same]
    have asking : (buildMessages python inp parts tools).org_id = org_id := own
    refine (askModel_confined inp keeps 0 _ asking).bind fun answer named => ?_
    refine (passes_confined inp separates keeps _ asking _ ?_).bind fun turn _ => ?_
    · exact named
    · exact conclude_confined inp turn

theorem runInner_confined (own : inp.org_id = org_id) :
    ConfinedTo org_id (fun _ => True) (runInner python outside inp) Counting := by
  cases safe : (checkInput python inp.query).safe
  · simp only [runInner, safe, Bool.false_eq_true, if_false]
    exact blocked_confined inp _
  · simp only [runInner, safe, if_true]
    exact runGuarded_confined inp separates keeps own _

theorem agentRun_confined (own : inp.org_id = org_id) :
    ConfinedTo org_id (fun _ => True) (agentRun python outside inp) fun _ => False := by
  refine .learns Counting (fun _ => False.elim) ?_ ?_ ?_
  · rintro left right - - fact (rfl | shared)
    · exact rfl
    · cases fact with
      | call_count => exact rfl
      | _ => exact shared
  · intro state
    exact .of_fields rfl
  · exact (runInner_confined inp separates keeps own).recover fun error => write_confined _ _ _

end Run

end Secrecy

end HelpForge.Chatbot
