import HelpForge.Chatbot.Chat.Service
import HelpForge.Lib.Separated

set_option autoImplicit false

namespace HelpForge.Chatbot

open Lib

structure TicketRef where
  org_id : String
  ticket_id : String
  deriving DecidableEq, Repr

namespace TicketRef

variable (ticket : TicketRef)

def messagesKey : String := TicketMemory.messagesKey ticket.org_id ticket.ticket_id

def contextKey : String := TicketMemory.contextKey ticket.org_id ticket.ticket_id

def stateKey : String := HelpForge.Chatbot.stateKey ticket.org_id ticket.ticket_id

end TicketRef

def ChatRequest.ticket (request : ChatRequest) : TicketRef := ⟨request.org_id, request.ticket_id⟩

def templateKey (org_id intent : String) : String := "template:" ++ org_id ++ ":" ++ intent

def Dict.remove {α : Type} (entries : Dict α) (key : String) : Dict α :=
  entries.filter fun entry => entry.1 != key

theorem Dict.lookup_remove {α : Type} (entries : Dict α) (key other : String) :
    (entries.remove key).lookup other = if other = key then none else entries.lookup other := by
  induction entries with
  | nil => simp [Dict.remove]
  | cons entry rest ih =>
    obtain ⟨head, value⟩ := entry
    unfold Dict.remove at ih ⊢
    by_cases removed : head = key
    · rw [List.filter_cons_of_neg (by simp [removed]), ih, lookup_entry, removed]
      by_cases same : other = key <;> simp [same]
    · rw [List.filter_cons_of_pos (by simp [removed]), lookup_entry, lookup_entry, ih]
      by_cases same : other = head
      · simp [same, removed]
      · simp [same]

namespace Keyspace

structure Redis where
  memory : TicketMemory := []
  contexts : Dict (Dict Value) := []
  states : Dict ConversationState := []

/-- What `TicketMemory` and `ConversationStateStore` do for one ticket. -/
inductive Operation where
  | addMessage (role content : String) (metadata : Dict Value)
  | getRecentMessages (limit : Int)
  | setContext (context : Dict Value)
  | getContext
  | clearMemory
  | getOrCreate
  | update (intent : String) (entities : Dict (List String)) (severity agent_action : String)
  | clearState

inductive Answer where
  | done
  | messages (found : Except PyError (List (Dict Value)))
  | context (found : Option (Dict Value))
  | state (found : ConversationState)

/-- What is kept of one ticket. -/
structure Kept where
  messages : List MemoryMessage
  context : Option (Dict Value)
  state : Option ConversationState

def Redis.kept (redis : Redis) (ticket : TicketRef) : Kept where
  messages := redis.memory.messages ticket.org_id ticket.ticket_id
  context := redis.contexts.lookup ticket.contextKey
  state := redis.states.lookup ticket.stateKey

def serve (ticket : TicketRef) (redis : Redis) : Operation → Answer × Redis
  | .addMessage role content metadata =>
    (.done, { redis with
      memory := redis.memory.addMessage ticket.org_id ticket.ticket_id role content metadata })
  | .getRecentMessages limit =>
    (.messages (redis.memory.getRecentMessages ticket.org_id ticket.ticket_id (.int limit)), redis)
  | .setContext context =>
    (.done, { redis with contexts := Dict.put redis.contexts ticket.contextKey context })
  | .getContext => (.context (redis.contexts.lookup ticket.contextKey), redis)
  | .clearMemory =>
    (.done, { redis with
      memory := Dict.remove redis.memory ticket.messagesKey
      contexts := Dict.remove redis.contexts ticket.contextKey })
  | .getOrCreate => (.state ((redis.states.lookup ticket.stateKey).getD {}), redis)
  | .update intent entities severity agent_action =>
    let state := ((redis.states.lookup ticket.stateKey).getD {}).applyTurn intent entities severity
      agent_action
    (.state state, { redis with states := Dict.put redis.states ticket.stateKey state })
  | .clearState => (.done, { redis with states := Dict.remove redis.states ticket.stateKey })

def GoesOn (org_id rest other_id other_rest : String) : Prop :=
  -- The second identifier goes on from the first one, and the rest of the first one does so from
  -- the rest of the second.
  ∃ middle, other_id = org_id ++ ":" ++ middle ∧ rest = middle ++ ":" ++ other_rest

section Tickets

variable (ticket other : TicketRef)

structure Separate : Prop where
  messages : ticket.messagesKey ≠ other.messagesKey
  contexts : ticket.contextKey ≠ other.contextKey
  states : ticket.stateKey ≠ other.stateKey

/-- No operation on the one ticket changes what is kept of the other, or what it answers. -/
structure Isolated : Prop where
  unchanged : ∀ redis operation, (serve ticket redis operation).2.kept other = redis.kept other
  unread : ∀ redis operation change,
    (serve ticket (serve other redis change).2 operation).1 = (serve ticket redis operation).1

def Overlap : Prop :=
  -- One organisation's identifier goes on, after a colon, with what the other's ticket begins with.
  GoesOn ticket.org_id ticket.ticket_id other.org_id other.ticket_id ∨
    GoesOn other.org_id other.ticket_id ticket.org_id ticket.ticket_id

end Tickets

def joined (front org_id rest : String) : String := front ++ org_id ++ ":" ++ rest

theorem joined_toList (front org_id rest : String) :
    (joined front org_id rest).toList = front.toList ++ (org_id.toList ++ ':' :: rest.toList) := by
  simp [joined, String.toList_append]

theorem goesOn_iff (org_id rest other_id other_rest : String) :
    GoesOn org_id rest other_id other_rest ↔
      Shifted ':' org_id.toList rest.toList other_id.toList other_rest.toList := by
  constructor
  · rintro ⟨middle, rfl, rfl⟩
    exact ⟨middle.toList, by simp [String.toList_append], by simp [String.toList_append]⟩
  · rintro ⟨middle, first, second⟩
    refine ⟨String.ofList middle, ?_, ?_⟩
    · rw [← String.toList_inj, first]
      simp [String.toList_append]
    · rw [← String.toList_inj, second]
      simp [String.toList_append]

theorem joined_eq_iff (front org_id rest other_id other_rest : String) :
    joined front org_id rest = joined front other_id other_rest ↔
      (org_id = other_id ∧ rest = other_rest) ∨ GoesOn org_id rest other_id other_rest ∨
        GoesOn other_id other_rest org_id rest := by
  rw [goesOn_iff, goesOn_iff, ← String.toList_inj, joined_toList, joined_toList,
    List.append_cancel_left_eq, joined_alike_iff, String.toList_inj, String.toList_inj]

theorem key_eq_iff (front : String) (ticket other : TicketRef) :
    joined front ticket.org_id ticket.ticket_id = joined front other.org_id other.ticket_id ↔
      ticket = other ∨ Overlap ticket other := by
  rw [joined_eq_iff, Overlap, TicketRef.mk.injEq]

theorem goesOn_differs {org_id rest other_id other_rest : String}
    (goes : GoesOn org_id rest other_id other_rest) : org_id ≠ other_id := by
  obtain ⟨middle, rfl, -⟩ := goes
  intro same
  have lengths := congrArg String.length same
  simp only [String.length_append] at lengths
  have colon : ":".length = 1 := rfl
  omega

theorem Overlap.differs {ticket other : TicketRef} (overlap : Overlap ticket other) :
    ticket ≠ other := by
  rintro rfl
  rcases overlap with goes | goes <;> exact goesOn_differs goes rfl

theorem separate_iff (ticket other : TicketRef) :
    Separate ticket other ↔ ticket ≠ other ∧ ¬Overlap ticket other := by
  have apart (front : String) :
      joined front ticket.org_id ticket.ticket_id ≠ joined front other.org_id other.ticket_id ↔
        ticket ≠ other ∧ ¬Overlap ticket other := by
    rw [Ne, key_eq_iff, not_or]
  constructor
  · intro separate
    exact (apart "memory:messages:").mp separate.messages
  · intro differ
    exact ⟨(apart "memory:messages:").mpr differ, (apart "memory:context:").mpr differ,
      (apart "conv:state:").mpr differ⟩

theorem messages_eq (memory : TicketMemory) (ticket : TicketRef) :
    memory.messages ticket.org_id ticket.ticket_id =
      (memory.lookup ticket.messagesKey).getD [] := rfl

theorem kept_of_separate {ticket other : TicketRef} (separate : Separate ticket other)
    (redis : Redis) (operation : Operation) :
    (serve ticket redis operation).2.kept other = redis.kept other := by
  have messages := separate.messages.symm
  have contexts := separate.contexts.symm
  have states := separate.states.symm
  cases operation with
  | addMessage role content metadata =>
    have kept : (redis.memory.addMessage ticket.org_id ticket.ticket_id role content
        metadata).lookup other.messagesKey = redis.memory.lookup other.messagesKey := by
      rw [TicketMemory.addMessage, TicketMemory.store, Dict.lookup_put]
      exact if_neg messages
    simp only [serve, Redis.kept, messages_eq, kept]
  | setContext context => simp [serve, Redis.kept, Dict.lookup_put, contexts]
  | clearMemory =>
    simp [serve, Redis.kept, messages_eq, Dict.lookup_remove, messages, contexts]
  | update intent entities severity agent_action =>
    simp [serve, Redis.kept, Dict.lookup_put, states]
  | clearState => simp [serve, Redis.kept, Dict.lookup_remove, states]
  | getRecentMessages limit => rfl
  | getContext => rfl
  | getOrCreate => rfl

theorem answer_of_kept {ticket : TicketRef} {redis redis' : Redis}
    (same : redis.kept ticket = redis'.kept ticket) (operation : Operation) :
    (serve ticket redis operation).1 = (serve ticket redis' operation).1 := by
  -- What an operation answers depends only on what is kept of its ticket.
  obtain ⟨messages, context, state⟩ := Kept.mk.injEq .. ▸ same
  cases operation with
  | getRecentMessages limit => simp [serve, TicketMemory.getRecentMessages, messages]
  | getContext => simp [serve, context]
  | getOrCreate => simp [serve, state]
  | update intent entities severity agent_action => simp [serve, state]
  | addMessage role content metadata => rfl
  | setContext context => rfl
  | clearMemory => rfl
  | clearState => rfl

theorem isolated_of_separate {ticket other : TicketRef} (separate : Separate ticket other) :
    Isolated ticket other where
  unchanged := kept_of_separate separate
  unread redis operation change := by
    have back : Separate other ticket :=
      ⟨separate.messages.symm, separate.contexts.symm, separate.states.symm⟩
    exact answer_of_kept (kept_of_separate back redis change) operation

/-- For any two requests: if their tickets differ then their keys do, and neither ticket's
operations meet the other's data, exactly if the identifiers do not overlap. For any two
organisations, their templates are under different keys exactly if neither identifier goes on
from the other after a colon. -/
theorem tenants_separate_iff (first second : ChatRequest) (org_id other_id : String) :
    ((first.ticket ≠ second.ticket →
          Separate first.ticket second.ticket ∧ Isolated first.ticket second.ticket) ↔
        ¬Overlap first.ticket second.ticket) ∧
      ((org_id ≠ other_id → ∀ intent intent',
          templateKey org_id intent ≠ templateKey other_id intent') ↔
        ¬∃ middle, other_id = org_id ++ ":" ++ middle ∨ org_id = other_id ++ ":" ++ middle) := by
  constructor
  · constructor
    · intro apart overlap
      exact ((separate_iff _ _).mp (apart overlap.differs).1).2 overlap
    · intro clear differ
      have separate := (separate_iff _ _).mpr ⟨differ, clear⟩
      exact ⟨separate, isolated_of_separate separate⟩
  · constructor
    · rintro apart ⟨middle, longer | longer⟩
      · have goes : GoesOn org_id (middle ++ ":" ++ "") other_id "" := ⟨middle, longer, rfl⟩
        exact apart (goesOn_differs goes) _ _ ((joined_eq_iff "template:" ..).mpr (.inr (.inl goes)))
      · have goes : GoesOn other_id (middle ++ ":" ++ "") org_id "" := ⟨middle, longer, rfl⟩
        exact apart (goesOn_differs goes).symm _ _
          ((joined_eq_iff "template:" ..).mpr (.inr (.inr goes)))
    · intro clear differ intent intent' same
      rcases (joined_eq_iff "template:" ..).mp same with ⟨alike, -⟩ | ⟨middle, longer, -⟩ |
        ⟨middle, longer, -⟩
      · exact differ alike
      · exact clear ⟨middle, .inl longer⟩
      · exact clear ⟨middle, .inr longer⟩

def request (org_id ticket_id : String) : ChatRequest :=
  { org_id, ticket_id, message := "Hello", window := default_window }

/-- The tickets `eu:7` of `acme` and `7` of `acme:eu` share their messages. -/
theorem message_crosses_tenants :
    ¬∀ first second : ChatRequest, first.ticket ≠ second.ticket →
      Separate first.ticket second.ticket ∧ Isolated first.ticket second.ticket := by
  intro apart
  obtain ⟨separate, -⟩ := apart (request "acme" "eu:7") (request "acme:eu" "7") (by decide)
  exact separate.messages (by decide)

end Keyspace

end HelpForge.Chatbot
