import HelpForge.Chatbot.Agent.Steps
import Mathlib.Data.List.Infix

set_option autoImplicit false

namespace HelpForge.Chatbot

open Lib

section Tenant

variable (python : Python) (script : Script) (inp : AgentInput) (start : AgentState)

variable {python script inp start}

end Tenant

end HelpForge.Chatbot
