import HelpForge.Chatbot.Chat.Service
import Mathlib.Data.List.Induction

set_option autoImplicit false

namespace HelpForge.Chatbot.ChatService

open Lib

/-- One message with what it meets; `meanwhile` is what happens to the service before it. -/
structure ChatTurn where
  outside : ChatSurroundings
  request : ChatRequest
  meanwhile : WidgetState → WidgetState := id

structure Chat where
  state : ChatState := {}
  transcript : List (Value × Value) := []

def spoken (entry : Dict Value) : Value × Value :=
  ((entry.lookup "role").getD .none, (entry.lookup "content").getD .none)

def lastEntries {α : Type} (limit : Int) (entries : List α) : List α :=
  entries.drop (entries.length - limit.toNat)

section Turns

variable (python : Python) (regex : Regex)

def ChatTurn.before (turn : ChatTurn) (state : ChatState) : ChatState :=
  { state with service := turn.meanwhile state.service }

def ChatTurn.handled (turn : ChatTurn) (state : ChatState) :
    Except PyError ChatResponse × ChatState :=
  (handleMessage python regex turn.outside turn.request).run (turn.before state)

def ChatTurn.said (turn : ChatTurn) (answer : Except PyError ChatResponse) :
    List (Value × Value) :=
  -- A reply is delivered unless the request fails.
  (.str "user", .str turn.request.message) ::
    match answer with
    | .ok response => [(.str "assistant", .str response.message)]
    | .error _ => []

def Chat.turn (chat : Chat) (turn : ChatTurn) : Chat :=
  let (answer, state) := turn.handled python regex chat.state
  { state, transcript := chat.transcript ++ turn.said answer }

def chatAfter (start : ChatState) (turns : List ChatTurn) : Chat :=
  turns.foldl (Chat.turn python regex) { state := start }

def Recalls (chat : Chat) (turn : ChatTurn) : Prop :=
  -- A history that the agent sees in this turn is the end of the transcript.
  ∀ history ∈
      (turn.handled python regex chat.state).2.histories.drop chat.state.histories.length,
    history.map spoken = lastEntries turn.request.context_window chat.transcript

def Consults (turn : ChatTurn) (state : ChatState) : Prop :=
  -- The message comes to the agent: no escalation and no template before it, and the agent's guard
  -- lets the message through.
  ∃ findings reached,
    (examine python regex turn.outside turn.request).run (turn.before state).service =
        (.ok findings, reached) ∧
      findings.escalation.should_escalate = false ∧
      matchTemplate python turn.outside turn.request.org_id findings.intent findings.entities
        (buildTicketContext turn.request) = .ok none ∧
      (checkInput python turn.request.message).safe = true

def Leaves (memory : TicketMemory) (histories : List (List (Dict Value))) (state : ChatState) :
    Prop :=
  state.memory = memory ∧ state.histories = histories

variable {python regex} {memory : TicketMemory} {histories : List (List (Dict Value))} {α : Type}

theorem leaves_onService (call : SessionCall α) :
    Program.Keeps (Leaves memory histories) (onService call) := by
  intro state left
  unfold Program.wp
  rw [run_onService]
  exact left

theorem leaves_done (result : Except PyError α) :
    Program.Keeps (Leaves memory histories) (Program.done result : ChatCall α) :=
  fun _ left => left

theorem answerFromAgent_leaves (outside : ChatSurroundings) (request : ChatRequest)
    (findings : Findings) (state : ChatState) :
    Program.wp (answerFromAgent python outside request findings)
      (fun _ => Leaves state.memory
        (state.histories ++ (historyOf python (withMemory outside state)
          (chatAgentInput request findings)).toList)) state := by
  rw [answerFromAgent, Program.wp_reads_bind, Program.wp_modify_bind]
  generalize withMemory outside state = around
  generalize chatAgentInput request findings = inp
  apply Program.Keeps.bind (leaves_onService _)
  · intro decision
    apply Program.Keeps.bind (leaves_onService _)
    intro recorded
    apply Program.Keeps.bind (leaves_done _)
    intro trace
    exact leaves_done _
  · exact ⟨rfl, rfl⟩

theorem handled_examined (turn : ChatTurn) (state : ChatState) (findings : Findings)
    (reached : WidgetState)
    (examined : (examine python regex turn.outside turn.request).run (turn.before state).service =
      (.ok findings, reached)) :
    turn.handled python regex state =
      (if findings.escalation.should_escalate then
        onService (escalateTurn turn.outside turn.request findings)
      else
        Program.done (matchTemplate python turn.outside turn.request.org_id findings.intent
          findings.entities (buildTicketContext turn.request)) >>= fun hit =>
          match hit with
          | some hit => onService (answerFromTemplate turn.request findings hit)
          | none => answerFromAgent python turn.outside turn.request findings).run
        { state with service := reached } := by
  rw [ChatTurn.handled, handleMessage, Program.run_bind, run_onService, examined]
  rfl

theorem handled_failed (turn : ChatTurn) (state : ChatState) (error : PyError)
    (reached : WidgetState)
    (examined : (examine python regex turn.outside turn.request).run (turn.before state).service =
      (.error error, reached)) :
    turn.handled python regex state = (.error error, { state with service := reached }) := by
  rw [ChatTurn.handled, handleMessage, Program.run_bind, run_onService, examined]
  rfl

def consulted (python : Python) (turn : ChatTurn) (state : ChatState) (findings : Findings)
    (reached : WidgetState) : List (Dict Value) :=
  (buildContext (withMemory turn.outside { state with service := reached })
    (chatAgentInput turn.request findings)
    (checkInput python turn.request.message).safe_value).history

theorem historyOf_chat (around : Surroundings) (request : ChatRequest) (findings : Findings) :
    historyOf python around (chatAgentInput request findings) =
      if (checkInput python request.message).safe then
        some (buildContext around (chatAgentInput request findings)
          (checkInput python request.message).safe_value).history
      else none := rfl

theorem handled_leaves (turn : ChatTurn) (state : ChatState) :
    (turn.handled python regex state).2.memory = state.memory ∧
      ((¬Consults python regex turn state ∧
          (turn.handled python regex state).2.histories = state.histories) ∨
        (Consults python regex turn state ∧ ∃ findings reached,
          (turn.handled python regex state).2.histories =
            state.histories ++ [consulted python turn state findings reached])) := by
  -- No turn writes to the memory, and only a turn in which the agent is consulted shows it.
  rcases examined : (examine python regex turn.outside turn.request).run
    (turn.before state).service with ⟨error | findings, reached⟩
  · -- the message was not even examined
    rw [handled_failed turn state error reached examined]
    refine ⟨rfl, .inl ⟨?_, rfl⟩⟩
    rintro ⟨findings, reached', examined', -⟩
    rw [examined] at examined'
    cases examined'
  have found (consults : Consults python regex turn state) :
      findings.escalation.should_escalate = false ∧
        matchTemplate python turn.outside turn.request.org_id findings.intent findings.entities
          (buildTicketContext turn.request) = .ok none ∧
        (checkInput python turn.request.message).safe = true := by
    obtain ⟨findings', reached', examined', rest⟩ := consults
    rw [examined] at examined'
    cases examined'
    exact rest
  rw [handled_examined turn state findings reached examined]
  by_cases escalates : findings.escalation.should_escalate = true
  · rw [if_pos escalates, run_onService]
    refine ⟨rfl, .inl ⟨fun consults => ?_, rfl⟩⟩
    rw [(found consults).1] at escalates
    cases escalates
  rw [if_neg escalates]
  rcases templates : matchTemplate python turn.outside turn.request.org_id findings.intent
    findings.entities (buildTicketContext turn.request) with error | hit
  · refine ⟨rfl, .inl ⟨fun consults => ?_, rfl⟩⟩
    have none_found := (found consults).2.1
    rw [templates] at none_found
    cases none_found
  rw [show (Program.done (Except.ok hit) : ChatCall (Option TemplateMatch)) = pure hit from rfl,
    Program.pure_bind]
  cases hit with
  | some hit =>
    have ⟨memory, seen⟩ := leaves_onService (answerFromTemplate turn.request findings hit)
      { state with service := reached } ⟨rfl, rfl⟩
    refine ⟨memory, .inl ⟨fun consults => ?_, seen⟩⟩
    have none_found := (found consults).2.1
    rw [templates] at none_found
    cases none_found
  | none =>
    have left := @answerFromAgent_leaves python turn.outside turn.request findings
      { state with service := reached }
    unfold Program.wp at left
    generalize Program.run _ _ = ended at left ⊢
    rw [historyOf_chat] at left
    refine ⟨left.1, ?_⟩
    have seen := left.2
    by_cases safe : (checkInput python turn.request.message).safe = true
    · rw [if_pos safe] at seen
      have calm : findings.escalation.should_escalate = false := by simpa using escalates
      exact .inr ⟨⟨findings, reached, examined, calm, templates, safe⟩, findings, reached, seen⟩
    · rw [if_neg safe] at seen
      refine .inl ⟨fun consults => safe (found consults).2.2, ?_⟩
      exact seen.trans (List.append_nil _)

theorem consults_of_more (turn : ChatTurn) (state : ChatState)
    (more : state.histories.length < (turn.handled python regex state).2.histories.length) :
    Consults python regex turn state := by
  rcases handled_leaves turn state with ⟨-, ⟨-, same⟩ | ⟨consults, -⟩⟩
  · rw [same] at more
    exact absurd more (lt_irrefl _)
  · exact consults

variable (start : ChatState) (turns : List ChatTurn)

theorem chatAfter_append (turn : ChatTurn) :
    chatAfter python regex start (turns ++ [turn]) =
      (chatAfter python regex start turns).turn python regex turn := by
  simp only [chatAfter, List.foldl_append, List.foldl_cons, List.foldl_nil]

theorem chatAfter_memory : (chatAfter python regex start turns).state.memory = start.memory := by
  induction turns using List.reverseRecOn with
  | nil => rfl
  | append_singleton turns turn ih =>
    rw [chatAfter_append]
    exact (handled_leaves turn _).1.trans ih

theorem chatAfter_histories (start : ChatState) (turns : List ChatTurn) :
    (chatAfter python regex start turns).state.histories.length ≤
      start.histories.length + turns.length := by
  induction turns using List.reverseRecOn with
  | nil => exact le_rfl
  | append_singleton turns turn ih =>
    rw [chatAfter_append, List.length_append, List.length_singleton]
    generalize chatAfter python regex start turns = chat at ih ⊢
    have grown : (turn.handled python regex chat.state).2.histories.length ≤
        chat.state.histories.length + 1 := by
      rcases @handled_leaves python regex turn chat.state with
        ⟨-, ⟨-, same⟩ | ⟨-, findings, reached, added⟩⟩
      · rw [same]
        omega
      · rw [added, List.length_append, List.length_singleton]
    exact grown.trans (by omega)

theorem chatAfter_transcript (start : ChatState) (turns : List ChatTurn) :
    (chatAfter python regex start turns).transcript = [] ↔ turns = [] := by
  cases turns using List.reverseRecOn with
  | nil => exact ⟨fun _ => rfl, fun _ => rfl⟩
  | append_singleton turns turn =>
    rw [chatAfter_append]
    simp [Chat.turn, ChatTurn.said]

theorem lastEntries_eq_nil (limit : Int) (positive : 1 ≤ limit) (entries : List α) :
    lastEntries limit entries = [] ↔ entries = [] := by
  rw [lastEntries, List.drop_eq_nil_iff, ← List.length_eq_zero_iff]
  omega

theorem recent_of_empty (memory : TicketMemory) (org_id ticket_id : String)
    (empty : memory.messages org_id ticket_id = []) (limit : Value)
    (history : List (Dict Value))
    (read : memory.getRecentMessages org_id ticket_id limit = .ok history) : history = [] := by
  simp only [TicketMemory.getRecentMessages, empty] at read
  cases start : TicketMemory.negated limit with
  | error error =>
    rw [start] at read
    cases read
  | ok start' =>
    rw [start] at read
    cases read
    simp [lrange]

theorem consulted_empty (turn : ChatTurn) (state : ChatState) (findings : Findings)
    (reached : WidgetState)
    (empty : state.memory.messages turn.request.org_id turn.request.ticket_id = []) :
    consulted python turn state findings reached = [] := by
  simp only [consulted, buildContext, withMemory]
  by_cases fault : reached.fault = true
  · rw [if_pos fault]
    rfl
  · rw [if_neg fault]
    split
    next history recent => exact recent_of_empty _ _ _ empty _ history recent
    next => rfl

theorem recalls_iff (chat : Chat) (turn : ChatTurn)
    (empty : chat.state.memory.messages turn.request.org_id turn.request.ticket_id = []) :
    Recalls python regex chat turn ↔
      (Consults python regex turn chat.state → chat.transcript = []) := by
  -- With an empty memory the agent recalls the chat only if there is nothing to recall.
  rw [← lastEntries_eq_nil turn.request.context_window turn.request.window.1 chat.transcript]
  obtain ⟨-, ⟨idle, same⟩ | ⟨consults, findings, reached, added⟩⟩ :=
    @handled_leaves python regex turn chat.state
  · simp [Recalls, same, idle]
  · have nothing := @consulted_empty python turn chat.state findings reached empty
    simp only [Recalls, added, List.drop_left, List.mem_singleton, forall_eq, nothing,
      List.map_nil]
    exact ⟨fun same _ => same.symm, fun same => (same consults).symm⟩

/-- The agent recalls what was said in all turns exactly if it is consulted in none but the
first. -/
theorem recalled_iff (python : Python) (regex : Regex) (org_id ticket_id : String)
    (start : ChatState) (turns : List ChatTurn)
    (here : ∀ turn ∈ turns, turn.request.org_id = org_id ∧ turn.request.ticket_id = ticket_id)
    (fresh : start.memory.messages org_id ticket_id = []) :
    (∀ before turn, before ++ [turn] <+: turns →
        Recalls python regex (chatAfter python regex start before) turn) ↔
      ∀ before turn, before ++ [turn] <+: turns →
        Consults python regex turn (chatAfter python regex start before).state →
          before = [] := by
  have turnwise (before : List ChatTurn) (turn : ChatTurn) (early : before ++ [turn] <+: turns) :
      Recalls python regex (chatAfter python regex start before) turn ↔
        (Consults python regex turn (chatAfter python regex start before).state → before = []) := by
    have ⟨org, ticket⟩ := here turn (early.subset (by simp))
    rw [recalls_iff, chatAfter_transcript]
    rw [chatAfter_memory, org, ticket]
    exact fresh
  constructor
  · intro recalled before turn early
    exact (turnwise before turn early).mp (recalled before turn early)
  · intro once before turn early
    exact (turnwise before turn early).mpr (once before turn early)

end Turns

def humanWanted : String := "Can I talk to a human?"

/-- Only this text asks for a human, and no other pattern is found in any text. -/
def oneHumanRequest : Regex where
  search pattern text := text = humanWanted ∧ pattern = humanRequestPattern
  finditer _ _ _ := []

def answer : String :=
  "\x7b\"action\": \"respond\", \"confidence\": 1, \"reasoning\": \"greeting\", " ++
    "\"message\": \"Hello.\"\x7d"

def answerData : Value := .dict
  [("action", .str "respond"), ("confidence", .int 1), ("reasoning", .str "greeting"),
    ("message", .str "Hello.")]

def asking (message : String) : ChatTurn where
  outside :=
    { generate _ _ := .ok (.dict [("content", .str answer)])
      gateway _ := .ok (.dict []) }
  request := { org_id := "A", ticket_id := "t1", message, window := default_window }

def handedOver : List ChatTurn := [asking "Hello!", asking humanWanted]

theorem human_not_consulted (state : ChatState) :
    ¬Consults (.reading answerData) oneHumanRequest (asking humanWanted) state := by
  rintro ⟨findings, reached, examined, calm, -⟩
  rw [examine, Program.bind_ok] at examined
  obtain ⟨known, _, -, examined⟩ := examined
  rw [Program.bind_ok] at examined
  obtain ⟨intent, _, -, examined⟩ := examined
  cases examined
  have human : oneHumanRequest.search humanRequestPattern humanWanted = true := by
    simp [oneHumanRequest]
  simp [asking, detectEscalation, human] at calm

theorem single_answer_recalled :
    Recalls (.reading answerData) oneHumanRequest
        (chatAfter (.reading answerData) oneHumanRequest {} []) (asking "Hello!") ∧
      Recalls (.reading answerData) oneHumanRequest
        (chatAfter (.reading answerData) oneHumanRequest {} [asking "Hello!"])
        (asking humanWanted) := by
  have here : ∀ turn ∈ handedOver, turn.request.org_id = "A" ∧ turn.request.ticket_id = "t1" := by
    simp [handedOver, asking]
  have recalled :=
    (recalled_iff (.reading answerData) oneHumanRequest "A" "t1" {} handedOver here rfl).mpr
  suffices consulted : ∀ before turn, before ++ [turn] <+: handedOver →
      Consults (.reading answerData) oneHumanRequest turn
        (chatAfter (.reading answerData) oneHumanRequest {} before).state → before = [] by
    exact ⟨recalled consulted [] _ (List.prefix_append [_] [_]),
      recalled consulted [_] _ (List.prefix_refl _)⟩
  intro before turn early consults
  cases before with
  | nil => rfl
  | cons first rest =>
    obtain ⟨-, later⟩ := List.cons_prefix_cons.mp early
    have second : turn = asking humanWanted := by
      simpa using later.subset (List.mem_append_right rest (List.mem_singleton_self turn))
    subst second
    exact absurd consults (human_not_consulted _)

def answeredTwice : List ChatTurn := [asking "Hello!", asking "Are you there?"]

/-- The agent knows nothing of the first message when it answers the second one. -/
theorem second_answer_forgets :
    ¬∀ before turn, before ++ [turn] <+: answeredTwice →
      Recalls (.reading answerData) oneHumanRequest
        (chatAfter (.reading answerData) oneHumanRequest {} before) turn := by
  intro recalled
  have now := recalled [asking "Hello!"] (asking "Are you there?") (List.prefix_refl _)
  have forgotten : (chatAfter (.reading answerData) oneHumanRequest {}
      [asking "Hello!"]).state.memory.messages "A" "t1" = [] := by
    rw [chatAfter_memory]
    rfl
  have said := (@chatAfter_transcript (.reading answerData) oneHumanRequest {} [asking "Hello!"]).mp
  have few := @chatAfter_histories (.reading answerData) oneHumanRequest {} [asking "Hello!"]
  rw [List.length_singleton] at few
  have seen : ((asking "Are you there?").handled (.reading answerData) oneHumanRequest
      (chatAfter (.reading answerData) oneHumanRequest {}
        [asking "Hello!"]).state).2.histories.length = 2 := by
    decide +kernel
  generalize chatAfter _ _ _ _ = chat at now forgotten said few seen
  have consults : Consults (.reading answerData) oneHumanRequest (asking "Are you there?")
      chat.state := by
    apply consults_of_more
    rw [seen]
    exact Nat.lt_succ_of_le few
  have nothing := (recalls_iff chat (asking "Are you there?") forgotten).mp now consults
  exact List.cons_ne_nil _ _ (said nothing)

end HelpForge.Chatbot.ChatService
