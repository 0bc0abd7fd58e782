import HelpForge.Chatbot.Agent.Outcome

set_option autoImplicit false

namespace HelpForge.Chatbot

open Lib

section Authorship

variable (python : Python) (outside : Surroundings) (inp : AgentInput)

def saidTo (asked : List Prompt) : Option AgentDecision :=
  -- The decision that the last of the prompts is answered with, unless it asks for a tool.
  match asked.getLast? with
  | none => none
  | some prompt =>
    match outside.generate (asked.length - 1) prompt >>= readReply python inp with
    | .ok (_, said) => if said.wantsTool then none else some said
    | .error _ => none

variable {python outside inp} {before : List Prompt}

theorem saidTo_last (earlier : List Prompt) (prompt : Prompt) :
    saidTo python outside inp (earlier ++ [prompt]) =
      match outside.generate earlier.length prompt >>= readReply python inp with
      | .ok (_, said) => if said.wantsTool then none else some said
      | .error _ => none := by
  simp [saidTo]

def Saying (python : Python) (outside : Surroundings) (inp : AgentInput) (before : List Prompt)
    (turn : Turn) (state : AgentState) : Prop :=
  ∃ earlier prompt tokens said result, state.asked = before ++ (earlier ++ [prompt]) ∧
    earlier.length = turn.agent_step ∧
    outside.generate turn.agent_step prompt >>= readReply python inp = .ok (tokens, said) ∧
    turn.decision = { said with tool_result := said.tool_result.or result }

theorem wantsTool_result (said : AgentDecision) (result : Option (Dict Value)) :
    ({ said with tool_result := result } : AgentDecision).wantsTool = said.wantsTool := rfl

theorem Saying.saidTo {turn : Turn} {state : AgentState}
    (saying : Saying python outside inp before turn state) :
    (turn.decision.wantsTool = true →
        saidTo python outside inp (state.asked.drop before.length) = none) ∧
      (turn.decision.wantsTool = false →
        ∃ said result, saidTo python outside inp (state.asked.drop before.length) = some said ∧
          turn.decision = { said with tool_result := said.tool_result.or result }) := by
  obtain ⟨earlier, prompt, tokens, said, result, asked, counted, told, made⟩ := saying
  rw [asked, List.drop_left, saidTo_last, counted, told, made, wantsTool_result]
  constructor
  · intro wants
    simp [wants]
  · intro idle
    exact ⟨said, result, by simp [idle], rfl⟩

variable (query : String)

end Authorship

end HelpForge.Chatbot
