import HelpForge.Chatbot.Python

set_option autoImplicit false

namespace HelpForge.Chatbot

structure MemoryMessage where
  role : String
  content : String
  metadata : Dict Value := []

/-- A stored message, as `json.loads` gives it back. -/
def MemoryMessage.loaded (message : MemoryMessage) : Dict Value :=
  [("role", .str message.role), ("content", .str message.content),
    ("metadata", .dict message.metadata)]

/-- `LRANGE`: a negative index counts from the end, and an index out of range is moved to the
nearest one. -/
def lrange {α : Type} (items : List α) (start stop : Int) : List α :=
  let index (position : Int) := if position < 0 then items.length + position else position
  (items.take (index stop + 1).toNat).drop (index start).toNat

abbrev TicketMemory := Dict (List MemoryMessage)

namespace TicketMemory

def messagesKey (org_id ticket_id : String) : String :=
  "memory:messages:" ++ org_id ++ ":" ++ ticket_id

def contextKey (org_id ticket_id : String) : String :=
  "memory:context:" ++ org_id ++ ":" ++ ticket_id

def messages (memory : TicketMemory) (org_id ticket_id : String) : List MemoryMessage :=
  (memory.lookup (messagesKey org_id ticket_id)).getD []

def store (memory : TicketMemory) (org_id ticket_id : String) (messages : List MemoryMessage) :
    TicketMemory :=
  Dict.put memory (messagesKey org_id ticket_id) messages

def addMessage (memory : TicketMemory) (org_id ticket_id role content : String)
    (metadata : Dict Value := []) : TicketMemory :=
  memory.store org_id ticket_id
    (memory.messages org_id ticket_id ++ [⟨role, content, metadata⟩])

/-- `-limit`, as Redis takes it for an index. -/
def negated : Value → Except PyError Int
  | .int limit => .ok (-limit)
  | .bool limit => .ok (if limit then -1 else 0)
  | .float _ | .nonFinite _ =>
    .error ⟨"ResponseError", "value is not an integer or out of range"⟩
  | other => .error ⟨"TypeError", "bad operand type for unary -: '" ++ other.typeName ++ "'"⟩

def getRecentMessages (memory : TicketMemory) (org_id ticket_id : String) (limit : Value) :
    Except PyError (List (Dict Value)) := do
  let start ← negated limit
  return (lrange (memory.messages org_id ticket_id) start (-1)).map MemoryMessage.loaded

section Laws

variable (memory : TicketMemory) (org_id ticket_id : String)

@[simp] theorem messages_store (messages : List MemoryMessage) :
    (memory.store org_id ticket_id messages).messages org_id ticket_id = messages := by
  simp [store, TicketMemory.messages, Dict.lookup_put]

@[simp] theorem messages_addMessage (role content : String) (metadata : Dict Value) :
    (memory.addMessage org_id ticket_id role content metadata).messages org_id ticket_id =
      memory.messages org_id ticket_id ++ [⟨role, content, metadata⟩] := by
  simp [addMessage]

end Laws

end TicketMemory

end HelpForge.Chatbot
