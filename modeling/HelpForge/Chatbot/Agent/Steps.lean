import HelpForge.Chatbot.Agent.Run

set_option autoImplicit false

namespace HelpForge.Chatbot

open Lib
open Program (run_bind run_modify run_pure run_reads run_recover)

section ToolStep

variable {python : Python} {outside : Surroundings} {inp : AgentInput}

theorem execute_frame (name : String) (input : Dict Value) (state : AgentState) :
    ∃ result reached, (execute python outside.gateway name input).run state = (.ok result, reached) ∧
      reached.results = state.results ∧ reached.written = state.written ∧
        reached.statuses = state.statuses := by
  by_cases refused : state.call_count < maxToolCallsPerRun → state.runnable name = none
  · obtain ⟨result, run⟩ := run_execute_refused name input state refused
    exact ⟨result, state, run, rfl, rfl, rfl⟩
  obtain ⟨within, runnable⟩ := Classical.not_imp.mp refused
  obtain ⟨tool, runnable⟩ := Option.ne_none_iff_exists'.mp runnable
  obtain ⟨result, attempts, -, run⟩ := run_execute_runnable name input state tool within runnable
  exact ⟨result, _, run, rfl, rfl, rfl⟩

theorem toolStep_frame (name : String) (input : Dict Value) (state : AgentState) :
    ∃ result reached, (toolStep python outside inp name input).run state = (.ok result, reached) ∧
      reached.results = state.results ++ [result] ∧ reached.written = state.written ∧
        reached.statuses = state.statuses := by
  cases dry : inp.dry_run with
  | true =>
    refine ⟨simulate state name input,
      { state with results := state.results ++ [simulate state name input] }, ?_, rfl, rfl, rfl⟩
    simp only [toolStep, dry, if_true, run_bind, run_reads, run_modify,
      run_pure]
  | false =>
    obtain ⟨result, reached, run, results, written, statuses⟩ :=
      @execute_frame python outside name input state
    refine ⟨result, { reached with results := reached.results ++ [result] }, ?_, ?_, written,
      statuses⟩
    · simp only [toolStep, dry, Bool.false_eq_true, if_false, run_bind, run,
        run_modify, run_pure]
    · rw [← results]

section Real

variable (name : String) (input : Dict Value) (state : AgentState) (real : inp.dry_run = false)

include real

theorem run_toolStep_refused
    (refused : state.call_count < maxToolCallsPerRun → state.runnable name = none) :
    ∃ result, (toolStep python outside inp name input).run state =
      (.ok result, { state with results := state.results ++ [result] }) := by
  obtain ⟨result, run⟩ := @run_execute_refused python outside.gateway name input state refused
  refine ⟨result, ?_⟩
  simp only [toolStep, real, Bool.false_eq_true, if_false, run_bind, run,
    run_modify, run_pure]

variable (tool : Tool) (within : state.call_count < maxToolCallsPerRun)
  (runnable : state.runnable name = some tool)

include within runnable

theorem run_toolStep_runnable :
    ∃ result attempts, (toolStep python outside inp name input).run state =
      (.ok result, { state.attempted python tool input (1 + attempts) with
        results := state.results ++ [result] }) := by
  obtain ⟨result, attempts, -, run⟩ :=
    @run_execute_runnable python outside.gateway name input state tool within runnable
  refine ⟨result, attempts, ?_⟩
  simp only [toolStep, real, Bool.false_eq_true, if_false, run_bind, run,
    run_modify, run_pure]
  rfl

end Real

end ToolStep

/-- Surroundings whose model gives these outputs, whatever it is asked. -/
structure Script where
  outputs : Nat → Except PyError Value
  gateway : ActionGateway
  retrieve : String → String → Nat × Except PyError String := fun _ _ => (0, .ok "")
  recentMessages : String → String → Value → Except PyError (List (Dict Value)) :=
    fun _ _ _ => .ok []
  elapsed : String → Rat := fun _ => 0

def Script.surroundings (script : Script) : Surroundings where
  generate step _ := script.outputs step
  gateway := script.gateway
  retrieve := script.retrieve
  recentMessages := script.recentMessages
  elapsed := script.elapsed

instance : Coe Script Surroundings := ⟨Script.surroundings⟩

theorem Script.generate_eq (script : Script) (step : Nat) (prompt : Prompt) :
    script.surroundings.generate step prompt = script.outputs step := rfl

/-- These outputs and then no answer, and a gateway that accepts everything. -/
def Script.saying (outputs : List String) : Script where
  outputs step :=
    match outputs[step]? with
    | some content => .ok (.dict [("content", .str content)])
    | none => .error ⟨"RuntimeError", "LLM gateway failed after 3 attempts"⟩
  gateway _ := .ok (.dict [])

variable {outcome : Except PyError AgentDecision × AgentState} {decision : AgentDecision}
  {tokens : Value} {steps : Nat}

section Steps

variable (python : Python) (script : Script) (inp : AgentInput)

def firstParts : Except PyError PromptParts :=
  promptParts python inp (buildContext script inp (checkInput python inp.query).safe_value)

/-- What the n-th decision call of the run comes to: only the first prompt can be one that
cannot be built. -/
def reply (step : Nat) : Except PyError (Value × AgentDecision) := do
  let _ ← firstParts python script inp
  let answer ← script.outputs step
  readReply python inp answer

def toolCallAt (step : Nat) : Option (String × Dict Value) :=
  match reply python script inp step with
  | .ok (_, decision) =>
    if decision.wantsTool then some (decision.tool.getD "", decision.tool_input) else none
  | .error _ => none

def firstPrompts (start : AgentState) : List Prompt :=
  (firstParts python script inp).toOption.toList.map fun parts =>
    buildMessages python inp parts (availableToolDescriptions start)

def stateAfter (start : AgentState) : Nat → AgentState
  -- The state when the model has been asked once more after so many tool steps.
  | 0 => { start with
      call_count := 0
      asked := start.asked ++ firstPrompts python script inp start }
  | step + 1 =>
    let wanted := (toolCallAt python script inp step).getD ("", [])
    let outcome := (toolStep python script inp wanted.1 wanted.2).run (stateAfter start step)
    let prompts := (firstPrompts python script inp start).map fun first =>
      buildFollowupMessages python inp first wanted.1 (outcome.1.toOption.getD []) (step + 1)
    { outcome.2 with asked := outcome.2.asked ++ prompts }

def lastResult (start : AgentState) (step : Nat) : Option (Dict Value) :=
  ((stateAfter python script inp start step).results.drop start.results.length).getLast?

inductive Ends (start : AgentState) (steps : Nat) :
    Except PyError AgentDecision × AgentState → Prop where
  -- The next decision call fails.
  | failed (error : PyError) (fails : reply python script inp steps = .error error) :
      Ends start steps ((write (buildFallbackDecision inp.mode
        ("Unhandled exception: " ++ error.name)) "error" (.str error.text)).run
          (stateAfter python script inp start steps))
  -- The next output asks for no tool.
  | answered (tokens : Value) (decision : AgentDecision) (turn : Turn)
      (said : reply python script inp steps = .ok (tokens, decision))
      (noTool : decision.wantsTool = false)
      (final : turn.decision = { decision with
        tool_result := decision.tool_result.or (lastResult python script inp start steps) }) :
      Ends start steps ((conclude python script inp turn).run
        (stateAfter python script inp start steps))
  | exhausted (turn : Turn) (limit : steps = maxAgentSteps)
      (wants : (toolCallAt python script inp steps).isSome)
      (final : turn.decision = buildFallbackDecision inp.mode stepLimitReason) :
      Ends start steps ((conclude python script inp turn).run
        (stateAfter python script inp start steps))

variable {python script inp}

theorem results_stateAfter (start : AgentState) (step : Nat) :
    ∃ results, results.length = step ∧
      (stateAfter python script inp start step).results = start.results ++ results := by
  induction step with
  | zero => exact ⟨[], rfl, by simp [stateAfter]⟩
  | succ step ih =>
    obtain ⟨results, counted, before⟩ := ih
    obtain ⟨result, reached, run, after, -, -⟩ := @toolStep_frame python script inp
      ((toolCallAt python script inp step).getD ("", [])).1
      ((toolCallAt python script inp step).getD ("", [])).2
      (stateAfter python script inp start step)
    refine ⟨results ++ [result], by simp [counted], ?_⟩
    simp only [stateAfter, run]
    rw [after, before, List.append_assoc]

theorem lastResult_eq_none (start : AgentState) (step : Nat) :
    lastResult python script inp start step = none ↔ step = 0 := by
  obtain ⟨results, counted, made⟩ := @results_stateAfter python script inp start step
  rw [lastResult, made, List.drop_left, List.getLast?_eq_none_iff, ← List.length_eq_zero_iff, counted]

theorem lastResult_zero (start : AgentState) : lastResult python script inp start 0 = none :=
  (lastResult_eq_none start 0).mpr rfl

theorem stateAfter_succ (start : AgentState) (step : Nat) (name : String) (input : Dict Value)
    (wanted : toolCallAt python script inp step = some (name, input)) :
    ∃ result reached,
      (toolStep python script inp name input).run (stateAfter python script inp start step) =
        (.ok result, reached) ∧
      stateAfter python script inp start (step + 1) =
        { reached with asked := reached.asked ++
          (firstPrompts python script inp start).map fun first =>
            buildFollowupMessages python inp first name result (step + 1) } ∧
      lastResult python script inp start (step + 1) = some result := by
  obtain ⟨result, reached, run, results, -, -⟩ := @toolStep_frame python script inp name input
    (stateAfter python script inp start step)
  have next : stateAfter python script inp start (step + 1) =
      { reached with asked := reached.asked ++
        (firstPrompts python script inp start).map fun first =>
          buildFollowupMessages python inp first name result (step + 1) } := by
    simp only [stateAfter, wanted, Option.getD_some, run, Except.toOption]
  refine ⟨result, reached, run, next, ?_⟩
  obtain ⟨earlier, -, before⟩ := @results_stateAfter python script inp start step
  simp only [lastResult, next, results, before, List.append_assoc, List.drop_left,
    List.getLast?_concat]

theorem statuses_stateAfter (start : AgentState) (step : Nat) :
    (stateAfter python script inp start step).statuses = start.statuses := by
  induction step with
  | zero => rfl
  | succ step ih =>
    obtain ⟨result, reached, run, -, -, statuses⟩ := @toolStep_frame python script inp
      ((toolCallAt python script inp step).getD ("", [])).1
      ((toolCallAt python script inp step).getD ("", [])).2
      (stateAfter python script inp start step)
    simp only [stateAfter, run]
    rw [statuses, ih]

theorem runnable_stateAfter (start : AgentState) (step : Nat) (name : String) :
    (stateAfter python script inp start step).runnable name = start.runnable name := by
  unfold AgentState.runnable AgentState.status
  rw [statuses_stateAfter]

theorem written_stateAfter (start : AgentState) (step : Nat) :
    (stateAfter python script inp start step).written = start.written := by
  induction step with
  | zero => rfl
  | succ step ih =>
    obtain ⟨result, reached, run, -, written, -⟩ := @toolStep_frame python script inp
      ((toolCallAt python script inp step).getD ("", [])).1
      ((toolCallAt python script inp step).getD ("", [])).2
      (stateAfter python script inp start step)
    simp only [stateAfter, run]
    rw [written, ih]

structure Progress (python : Python) (script : Script) (inp : AgentInput)
    (start : AgentState) (step : Nat) (turn : Turn) (state : AgentState) : Prop where
  state_eq : state = stateAfter python script inp start step
  step_eq : turn.agent_step = step
  earlier : ∀ k < step, (toolCallAt python script inp k).isSome
  said : ∃ tokens decision, reply python script inp step = .ok (tokens, decision) ∧
    turn.decision = { decision with
      tool_result := decision.tool_result.or (lastResult python script inp start step) }

variable {start : AgentState} {step : Nat} {turn : Turn} {state : AgentState}

section Briefed

variable {parts : PromptParts} (built : firstParts python script inp = .ok parts)

include built

theorem reply_eq (step : Nat) :
    reply python script inp step = script.outputs step >>= readReply python inp := by
  rw [reply, built]
  rfl

theorem firstPrompts_eq (start : AgentState) :
    firstPrompts python script inp start =
      [buildMessages python inp parts (availableToolDescriptions start)] := by
  rw [firstPrompts, built]
  rfl

end Briefed

theorem Progress.first (start : AgentState) (tokens : Value) (decision : AgentDecision)
    (said : reply python script inp 0 = .ok (tokens, decision)) :
    Progress python script inp start 0
      (firstTurn script inp (checkInput python inp.query).safe_value tokens decision)
      (stateAfter python script inp start 0) where
  state_eq := rfl
  step_eq := rfl
  earlier := nofun
  said := ⟨tokens, decision, said, by simp [firstTurn, lastResult_zero]⟩

theorem Progress.toolCall (progress : Progress python script inp start step turn state)
    (wants : turn.decision.wantsTool = true) :
    toolCallAt python script inp step =
      some (turn.decision.tool.getD "", turn.decision.tool_input) := by
  obtain ⟨tokens, decision, said, made⟩ := progress.said
  have same : decision.wantsTool = true := by
    rw [made] at wants
    exact wants
  rw [toolCallAt, said, made]
  exact if_pos same

section Briefed

variable {parts : PromptParts} (built : firstParts python script inp = .ok parts)

include built

theorem Progress.pass (progress : Progress python script inp start step turn state)
    (wants : turn.decision.wantsTool = true) :
    (∃ error, reply python script inp (step + 1) = .error error ∧
        (pass python script inp
          (buildMessages python inp parts (availableToolDescriptions start)) turn).run state =
          (.error error, stateAfter python script inp start (step + 1))) ∨
      ∃ next, (HelpForge.Chatbot.pass python script inp
          (buildMessages python inp parts (availableToolDescriptions start)) turn).run state =
          (.ok next, stateAfter python script inp start (step + 1)) ∧
        Progress python script inp start (step + 1) next
          (stateAfter python script inp start (step + 1)) := by
  have wanted := progress.toolCall wants
  obtain ⟨result, reached, run, after, last⟩ := stateAfter_succ start step _ _ wanted
  have asks : (HelpForge.Chatbot.pass python script inp
      (buildMessages python inp parts (availableToolDescriptions start)) turn).run state =
      match reply python script inp (step + 1) with
      | .ok (tokens, decision) => (.ok (nextTurn script inp turn result tokens decision),
          stateAfter python script inp start (step + 1))
      | .error error => (.error error, stateAfter python script inp start (step + 1)) := by
    rw [progress.state_eq, after, reply_eq built, firstPrompts_eq built]
    simp only [HelpForge.Chatbot.pass, run_bind, run, askModel, run_modify,
      progress.step_eq, Program.run_done, Script.generate_eq, List.map_cons, List.map_nil]
    cases script.outputs (step + 1) >>= readReply python inp <;> rfl
  cases said : reply python script inp (step + 1) with
  | error error =>
    left
    exact ⟨error, rfl, by rw [asks, said]⟩
  | ok answer =>
    obtain ⟨tokens, decision⟩ := answer
    right
    refine ⟨nextTurn script inp turn result tokens decision, by rw [asks, said], rfl, ?_, ?_,
      tokens, decision, said, ?_⟩
    · simp only [nextTurn, progress.step_eq]
    · intro k before
      rcases Nat.lt_succ_iff_lt_or_eq.mp before with earlier | rfl
      · exact progress.earlier k earlier
      · rw [wanted]
        rfl
    · rw [last]
      rfl

theorem Progress.passes {count : Nat} (said : reply python script inp 0 = .ok (tokens, decision))
    (passes : Program.Passes (fun turn : Turn => turn.decision.wantsTool)
      (HelpForge.Chatbot.pass python script inp
        (buildMessages python inp parts (availableToolDescriptions start)))
      (firstTurn script inp (checkInput python inp.query).safe_value tokens decision)
      (stateAfter python script inp start 0) count turn state) :
    Progress python script inp start count turn state := by
  induction passes with
  | start => exact Progress.first start tokens decision said
  | more before goesOn passed ih =>
    rcases ih.pass built goesOn with ⟨error, -, failed⟩ | ⟨next, run, progress⟩
    · rw [failed] at passed
      cases passed
    · rw [run] at passed
      cases passed
      exact progress

end Briefed

def ownEntries (python : Python) (script : Script) (inp : AgentInput) (turn : Turn) :
    Dict Value :=
  ("metrics", .dict (finalMetrics python script inp turn)) ::
    if inp.dry_run then [("dry_run_trace", (finalTrace python script inp turn).modelDump)] else []

theorem run_conclude (turn : Turn) (state : AgentState) :
    (conclude python script inp turn).run state =
      (.ok { guarded python turn.decision with
          metadata := Dict.merge turn.decision.metadata (ownEntries python script inp turn) },
        { state with written := state.written ++ ownEntries python script inp turn }) := by
  cases dry : inp.dry_run with
  | true =>
    simp only [conclude, write, dry, if_true, run_bind, run_modify,
      run_pure, List.append_assoc, ownEntries]
    rfl
  | false =>
    simp only [conclude, write, dry, Bool.false_eq_true, if_false, run_bind,
      run_modify, run_pure, ownEntries]
    rfl

theorem agentRun_run (start : AgentState) (safe : (checkInput python inp.query).safe = true)
    {parts : PromptParts} (built : firstParts python script inp = .ok parts) :
    (agentRun python script inp).run start =
      match reply python script inp 0 with
      | .ok (tokens, decision) =>
        match (Program.whileAtMost (fun turn : Turn => turn.decision.wantsTool)
            (HelpForge.Chatbot.pass python script inp
              (buildMessages python inp parts (availableToolDescriptions start)))
            (stepLimit inp) maxAgentSteps
            (firstTurn script inp (checkInput python inp.query).safe_value tokens decision)).run
              (stateAfter python script inp start 0) with
        | (.ok turn, reached) => (conclude python script inp turn).run reached
        | (.error error, reached) =>
          (write (buildFallbackDecision inp.mode ("Unhandled exception: " ++ error.name)) "error"
            (.str error.text)).run reached
      | .error error =>
        (write (buildFallbackDecision inp.mode ("Unhandled exception: " ++ error.name)) "error"
          (.str error.text)).run (stateAfter python script inp start 0) := by
  have made : promptParts python inp
      (buildContext script.surroundings inp (checkInput python inp.query).safe_value) =
        .ok parts := built
  have tools : availableToolDescriptions { start with call_count := 0 } =
      availableToolDescriptions start := rfl
  simp only [agentRun, runInner, runGuarded, safe, if_true, run_bind, run_modify,
    run_recover, askModel, stateAfter, made, run_reads, reply_eq built,
    firstPrompts_eq built, Program.run_done, Script.generate_eq, tools]
  cases script.outputs 0 >>= readReply python inp with
  | error error => rfl
  | ok answer =>
    obtain ⟨tokens, decision⟩ := answer
    simp only
    rcases (Program.whileAtMost (fun turn : Turn => turn.decision.wantsTool)
      (HelpForge.Chatbot.pass python script inp
        (buildMessages python inp parts (availableToolDescriptions start)))
      (stepLimit inp) maxAgentSteps
      (firstTurn script inp (checkInput python inp.query).safe_value tokens decision)).run _
      with ⟨error | turn, reached⟩
    · rfl
    · simp only [run_conclude]

theorem agentRun_unbuilt (start : AgentState) (safe : (checkInput python inp.query).safe = true)
    (error : PyError) (failed : firstParts python script inp = .error error) :
    (agentRun python script inp).run start =
      (write (buildFallbackDecision inp.mode ("Unhandled exception: " ++ error.name)) "error"
        (.str error.text)).run (stateAfter python script inp start 0) := by
  have failed' : promptParts python inp
      (buildContext script.surroundings inp (checkInput python inp.query).safe_value) =
        .error error := failed
  have none_asked : firstPrompts python script inp start = [] := by
    rw [firstPrompts, failed]
    rfl
  simp only [agentRun, runInner, runGuarded, safe, if_true, run_bind, run_modify,
    run_recover, stateAfter, failed', none_asked, List.append_nil, Program.run_done]

section Looped

variable (python script inp) in
def Looped (parts : PromptParts) (start : AgentState) (tokens : Value) (decision : AgentDecision)
    (count : Nat) (turn : Turn) (state : AgentState) : Prop :=
  Program.Passes (fun turn : Turn => turn.decision.wantsTool)
    (HelpForge.Chatbot.pass python script inp
      (buildMessages python inp parts (availableToolDescriptions start)))
    (firstTurn script inp (checkInput python inp.query).safe_value tokens decision)
    (stateAfter python script inp start 0) count turn state

variable {parts : PromptParts} (built : firstParts python script inp = .ok parts)

include built

theorem agentRun_looped (start : AgentState) (safe : (checkInput python inp.query).safe = true)
    (said : reply python script inp 0 = .ok (tokens, decision)) :
    ∃ count ≤ maxAgentSteps, ∃ turn state,
      Looped python script inp parts start tokens decision count turn state ∧
      Progress python script inp start count turn state ∧
      (turn.decision.wantsTool = false ∧
          (agentRun python script inp).run start = (conclude python script inp turn).run state ∨
        turn.decision.wantsTool = true ∧ count < maxAgentSteps ∧
          (∃ error, reply python script inp (count + 1) = .error error ∧
            (agentRun python script inp).run start =
              (write (buildFallbackDecision inp.mode ("Unhandled exception: " ++ error.name))
                "error" (.str error.text)).run (stateAfter python script inp start (count + 1))) ∨
        turn.decision.wantsTool = true ∧ count = maxAgentSteps ∧
          (agentRun python script inp).run start =
            (stepLimit inp turn >>= conclude python script inp).run state) := by
  obtain ⟨count, turn, state, few, passes, ended⟩ := Program.run_whileAtMost
    (fun turn : Turn => turn.decision.wantsTool)
    (HelpForge.Chatbot.pass python script inp
      (buildMessages python inp parts (availableToolDescriptions start)))
    (stepLimit inp) maxAgentSteps
    (firstTurn script inp (checkInput python inp.query).safe_value tokens decision)
    (stateAfter python script inp start 0)
  have progress := Progress.passes built said passes
  refine ⟨count, few, turn, state, passes, progress, ?_⟩
  rw [agentRun_run start safe built]
  simp only [said]
  rcases ended with ⟨noTool, run⟩ | ⟨wants, below, error, reached, failed, run⟩ |
    ⟨wants, limit, run⟩
  · exact .inl ⟨noTool, by simp only [run]⟩
  · right; left
    refine ⟨wants, below, error, ?_⟩
    rcases progress.pass built wants with ⟨error', said, run'⟩ | ⟨next, run', -⟩
    · rw [run'] at failed
      cases failed
      exact ⟨said, by simp only [run]⟩
    · rw [run'] at failed
      cases failed
  · right; right
    refine ⟨wants, limit, ?_⟩
    simp only [run, stepLimit, run_bind, run_pure]

end Looped

theorem agentRun_ends (start : AgentState) (safe : (checkInput python inp.query).safe = true) :
    ∃ steps ≤ maxAgentSteps, (∀ k < steps, (toolCallAt python script inp k).isSome) ∧
      Ends python script inp start steps ((agentRun python script inp).run start) := by
  -- Past the input guard a run takes some tool steps, all asked for, and ends.
  cases built : firstParts python script inp with
  | error error =>
    rw [agentRun_unbuilt start safe error built]
    refine ⟨0, by decide, nofun, .failed error ?_⟩
    rw [reply, built]
    rfl
  | ok parts =>
  cases said : reply python script inp 0 with
  | error error =>
    rw [agentRun_run start safe built]
    simp only [said]
    exact ⟨0, by decide, nofun, .failed error said⟩
  | ok answer =>
    obtain ⟨tokens, decision⟩ := answer
    obtain ⟨count, few, turn, state, -, progress, ended⟩ := agentRun_looped built start safe said
    rcases ended with ⟨noTool, run⟩ | ⟨wants, below, error, failed, run⟩ | ⟨wants, limit, run⟩
    · rw [run, progress.state_eq]
      obtain ⟨tokens, decision, said, made⟩ := progress.said
      refine ⟨count, few, progress.earlier, .answered tokens decision turn said ?_ made⟩
      rw [made] at noTool
      exact noTool
    · rw [run]
      refine ⟨count + 1, by omega, ?_, .failed error failed⟩
      intro k before
      rcases Nat.lt_succ_iff_lt_or_eq.mp before with earlier | rfl
      · exact progress.earlier k earlier
      · rw [progress.toolCall wants]
        rfl
    · rw [run, progress.state_eq]
      simp only [stepLimit, run_bind, run_pure]
      refine ⟨count, few, progress.earlier, .exhausted _ limit ?_ rfl⟩
      rw [progress.toolCall wants]
      rfl

theorem Ends.frame (ends : Ends python script inp start steps outcome) :
    outcome.2.calls = (stateAfter python script inp start steps).calls ∧
      outcome.2.executions = (stateAfter python script inp start steps).executions ∧
        outcome.2.results = (stateAfter python script inp start steps).results := by
  cases ends with
  | failed error fails => exact ⟨rfl, rfl, rfl⟩
  | answered tokens decision turn said noTool final => rw [run_conclude]; exact ⟨rfl, rfl, rfl⟩
  | exhausted turn limit wants final => rw [run_conclude]; exact ⟨rfl, rfl, rfl⟩

theorem Ends.covers (ends : Ends python script inp start steps outcome) (step : Nat)
    (early : step < maxAgentSteps) (asked : ∀ k ≤ step, (toolCallAt python script inp k).isSome) :
    step < steps := by
  by_contra short
  have none_asked : toolCallAt python script inp steps = none ∨ steps = maxAgentSteps := by
    cases ends with
    | failed error fails => left; rw [toolCallAt, fails]
    | answered tokens decision turn said noTool final =>
      left
      simp [toolCallAt, said, noTool]
    | exhausted turn limit wants final => exact .inr limit
  rcases none_asked with none_asked | limit
  · have asked := asked steps (by omega)
    rw [none_asked] at asked
    cases asked
  · omega

theorem run_blocked (inp : AgentInput) (guard : GuardResult) (state : AgentState) :
    ∃ decision own, (blocked inp guard).run state =
        (.ok decision, { state with written := state.written ++ own }) ∧
      decision.tool_result = none ∧ decision.metadata = own ∧
      ∀ entry ∈ own, entry.1 = "dry_run_trace" := by
  cases dry : inp.dry_run with
  | true =>
    simp only [blocked, dry, if_true]
    refine ⟨_, _, rfl, ?_, ?_, ?_⟩
    · split <;> rfl
    · split <;> rfl
    · simp
  | false =>
    simp only [blocked, dry, Bool.false_eq_true, if_false, run_pure]
    refine ⟨_, [], by rw [List.append_nil], ?_, ?_, nofun⟩ <;> split <;> rfl

theorem agentRun_blocked (start : AgentState)
    (unsafe_ : (checkInput python inp.query).safe = false) :
    (agentRun python script inp).run start =
      ((blocked inp (checkInput python inp.query)).run { start with call_count := 0 }) := by
  simp only [agentRun, runInner, unsafe_, Bool.false_eq_true, if_false, run_bind,
    run_modify, run_recover]
  cases dry : inp.dry_run <;> simp only [blocked, dry, Bool.false_eq_true, if_true, if_false] <;> rfl

end Steps

end HelpForge.Chatbot
