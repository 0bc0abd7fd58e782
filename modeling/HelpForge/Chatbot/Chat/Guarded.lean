import HelpForge.Chatbot.Agent.Authorship
import HelpForge.Chatbot.Rag.Refinement

set_option autoImplicit false

namespace HelpForge.Chatbot

open Lib
open Program (bind_ok)

inductive Value.HasText : Value → String → Prop where
  | str (text : String) : HasText (.str text) text
  | item {items : List Value} {value : Value} {text : String} (among : value ∈ items)
      (inside : HasText value text) : HasText (.list items) text
  | entry {entries : Dict Value} {key : String} {value : Value} {text : String}
      (among : (key, value) ∈ entries) (inside : HasText value text) :
      HasText (.dict entries) text
  | key {entries : Dict Value} {key : String} {value : Value} (among : (key, value) ∈ entries) :
      HasText (.dict entries) key

variable (text : String)

namespace Value

end Value

variable {said : AgentDecision} {findings : Findings}

namespace ChatService

def ChatResponse.Shows (response : ChatResponse) (key text : String) : Prop :=
  ∃ value, response.metadata.lookup key = some value ∧ value.HasText text

def ChatResponse.Delivers (response : ChatResponse) (said : AgentDecision) (text : String) :
    Prop :=
  -- The text stands in the response, and the model has written it.
  text = response.message ∨ response.Shows "reasoning" text ∨ response.Shows "tool" text ∨
    (said.tool_result.isSome ∧ response.Shows "tool_result" text) ∨
    (Value.list (response.sources.map .dict)).HasText text

section Chat

variable (python : Python) (regex : Regex) (outside : ChatSurroundings) (request : ChatRequest)
  (state : ChatState)

end Chat

section Chat

variable {python : Python} {regex : Regex} {outside : ChatSurroundings} {request : ChatRequest}
  {state : ChatState}

end Chat

section Stream

variable (python : Python) (regex : Regex) (outside : RagSurroundings) (request : ChatRequest)
  (memory : TicketMemory)

end Stream

section Stream

variable {python : Python} {regex : Regex} {outside : RagSurroundings} {request : ChatRequest}
  {memory : TicketMemory}

end Stream

end ChatService

variable {response : WidgetChatResponse} {final : WidgetState}

section Widget

variable (python : Python) (regex : Regex) (outside : WidgetSurroundings)
  (request : WidgetChatRequest) (state : WidgetState)

/-- Every word with the space after it, as `event_stream` sends them. -/
def chunks : List (List Char) → List (List Char)
  | [] => []
  | [word] => [word]
  | word :: rest => (word ++ [' ']) :: chunks rest

variable {python regex outside request state}

end Widget

end HelpForge.Chatbot
