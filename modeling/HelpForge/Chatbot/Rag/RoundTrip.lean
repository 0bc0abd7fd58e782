import HelpForge.Chatbot.Rag.Refinement

set_option autoImplicit false

namespace HelpForge.Chatbot

open Lib
open Program (run_bind run_recover)

variable (content : String)

namespace LanguageModel

def ComesBack (content : String) : Prop :=
  -- The content comes back, with a blank at most behind it.
  (tokens content).flatten = content.toList ∨ (tokens content).flatten = content.toList ++ [' ']

theorem mem_flatten_tokens (char : Char) (among : char ∈ (tokens content).flatten) :
    isLineBreak char = false := by
  obtain ⟨token, member, inside⟩ := List.mem_flatten.mp among
  exact (mem_tokens content token member).1 char inside

theorem comesBack_iff : ComesBack content ↔ ∀ char ∈ content.toList, isLineBreak char = false := by
  constructor
  · intro back char among
    apply mem_flatten_tokens content
    rcases back with whole | spaced
    · rwa [whole]
    · rw [spaced]
      exact List.mem_append_left _ among
  · intro flat
    exact .inr (tokens_flat content flat)

end LanguageModel

namespace ChatService

open LanguageModel RAGPipeline

variable (python : Python) (regex : Regex) (outside : RagSurroundings) (request : ChatRequest)

def errorMark : List Char := "[ERROR]".toList

/-- `event_generator` of `chat_stream`. -/
def chatStream : PipelineCall Unit :=
  Program.recover (streamMessage python regex outside request) fun _ => write errorMark

def put (token : List Char) : PipelineCall Unit :=
  -- The text alone, without the frames.
  Program.modify fun state => { state with wire := state.wire ++ token }

variable (memory : TicketMemory)

/-- The text that `RAGPipeline.stream` yields from its start to its end. -/
def yielded : Except PyError (List Char) :=
  let ended := (RAGPipeline.stream python regex outside request.org_id request.ticket_id
    request.message (buildTicketContext request) request.mode put).run { memory }
  ended.1.map fun _ => ended.2.wire

def wired : List Char := ((chatStream python regex outside request).run { memory }).2.wire

/-- An `EventSource` client that reads up to the end of the stream. -/
def obtained : List Char :=
  EventStream.delivered doneMark (wired python regex outside request memory)

def Streamable : Prop :=
  -- The message is let in, and an answer from the FAQ stays in its line.
  let guard := checkInput python request.message
  let routed := QueryRouter.classify python regex outside.model request.org_id guard.safe_value
  let found := outside.faqMatch request.org_id guard.safe_value
  guard.safe = true ∧
    (routed.use_rag = true → found.matched = true →
      EventStream.Solid found.answer.toList ∧ found.answer.toList ≠ doneMark)

variable {python regex outside request memory}

theorem run_emitAll_put (tokens : List (List Char)) (state : PipelineState) :
    (emitAll put tokens).run state =
      (.ok (), { state with wire := state.wire ++ tokens.flatten }) := by
  induction tokens generalizing state with
  | nil => simp [emitAll]
  | cons token tokens ih => simp [emitAll, put, run_bind, ih]

def Arrives (python : Python) (regex : Regex) (outside : RagSurroundings) (request : ChatRequest)
    (memory : TicketMemory) : Prop :=
  -- Where the pipeline comes to its end, the client has the text that it yielded.
  ∀ text, yielded python regex outside request memory = .ok text →
    obtained python regex outside request memory = text

theorem arrives_of_ok {text : List Char}
    (ended : yielded python regex outside request memory = .ok text) :
    Arrives python regex outside request memory ↔
      obtained python regex outside request memory = text := by
  simp [Arrives, ended]

theorem blocked_lost (blocked : (checkInput python request.message).safe = false) :
    ¬ Arrives python regex outside request memory := by
  have refusal := refusal_of_blocked python request.message blocked
  have text : yielded python regex outside request memory =
      .ok (EventStream.frame injectionResponse.toList ++ EventStream.frame doneMark) := by
    simp [yielded, RAGPipeline.stream, blocked, refusal, put, run_bind, Except.map]
  have wire : wired python regex outside request memory =
      EventStream.frame (EventStream.frame injectionResponse.toList) ++
        EventStream.frame (EventStream.frame doneMark) ++ EventStream.frame doneMark := by
    simp [wired, chatStream, run_recover, streamMessage, RAGPipeline.stream, blocked,
      refusal, write, run_bind]
  rw [arrives_of_ok text, obtained, wire]
  decide +kernel

section Given

variable (safe : (checkInput python request.message).safe = true)

include safe

theorem canned_arrives
    (short : (QueryRouter.classify python regex outside.model request.org_id
      (checkInput python request.message).safe_value).use_rag = false) :
    Arrives python regex outside request memory := by
  have ⟨solid, other⟩ := cannedTexts_solid _ (QueryRouter.canned_classify python regex
    outside.model request.org_id (checkInput python request.message).safe_value)
  have text : yielded python regex outside request memory =
      .ok (QueryRouter.canned (QueryRouter.classify python regex outside.model request.org_id
        (checkInput python request.message).safe_value)).toList := by
    simp [yielded, RAGPipeline.stream, safe, short, put, run_bind, run_route,
      run_remember, Except.map, -bind_pure_comp]
  rw [arrives_of_ok text, ← delivered_single _ solid other]
  simp [obtained, wired, chatStream, run_recover, streamMessage, RAGPipeline.stream, safe,
    short, run_bind, run_route, run_remember, write, -bind_pure_comp]

theorem faq_arrives_iff
    (long : (QueryRouter.classify python regex outside.model request.org_id
      (checkInput python request.message).safe_value).use_rag = true)
    (hit : (outside.faqMatch request.org_id
      (checkInput python request.message).safe_value).matched = true) :
    Arrives python regex outside request memory ↔
      EventStream.Solid (outside.faqMatch request.org_id
          (checkInput python request.message).safe_value).answer.toList ∧
        (outside.faqMatch request.org_id
          (checkInput python request.message).safe_value).answer.toList ≠ doneMark := by
  have text : yielded python regex outside request memory =
      .ok (outside.faqMatch request.org_id
        (checkInput python request.message).safe_value).answer.toList := by
    simp [yielded, RAGPipeline.stream, safe, long, hit, put, run_bind, run_route,
      run_remember, Except.map, -bind_pure_comp]
  rw [arrives_of_ok text, ← EventStream.delivered_frame_iff doneMark _ doneMark_solid (by decide)]
  simp [obtained, wired, chatStream, run_recover, streamMessage, RAGPipeline.stream, safe,
    long, hit, run_bind, run_route, run_remember, write, -bind_pure_comp]

theorem generated_arrives
    (long : (QueryRouter.classify python regex outside.model request.org_id
      (checkInput python request.message).safe_value).use_rag = true)
    (miss : (outside.faqMatch request.org_id
      (checkInput python request.message).safe_value).matched = false) :
    Arrives python regex outside request memory := by
  cases ready : prepare python outside request.org_id request.ticket_id
    (buildTicketContext request) request.mode (checkInput python request.message).safe_value
    topKRetrieval memory with
  | error failed =>
    -- the stream ends in the error mark, and nothing was yielded as a whole
    intro text ended
    simp [yielded, RAGPipeline.stream, safe, long, miss, run_bind, run_route,
      streamRetrieved, ready, Except.map] at ended
  | ok found =>
    cases answered : outside.model.respond found.2 with
    | none =>
      intro text ended
      simp [yielded, RAGPipeline.stream, safe, long, miss, run_bind, run_route,
        streamRetrieved, streamGenerate, ready, answered, Except.map] at ended
    | some answer =>
      have arrives := EventStream.delivered_frames doneMark (tokens answer.content)
        (fun token among => tokens_solid answer.content token among) doneMark_solid
      have text : yielded python regex outside request memory =
          .ok (tokens answer.content).flatten := by
        simp [yielded, RAGPipeline.stream, safe, long, miss, run_bind, run_route,
          streamRetrieved, streamGenerate, ready, answered, run_emitAll_put, run_remember,
          run_summaryEffect, Except.map]
      rw [arrives_of_ok text]
      simp [obtained, wired, chatStream, run_recover, streamMessage, RAGPipeline.stream,
        safe, long, miss, run_bind, run_route, streamRetrieved, streamGenerate, ready,
        answered, run_emitAll, run_remember, run_summaryEffect, write, arrives]

end Given

theorem arrives_iff_streamable (python : Python) (regex : Regex) (outside : RagSurroundings)
    (request : ChatRequest) (memory : TicketMemory) :
    Arrives python regex outside request memory ↔ Streamable python regex outside request := by
  by_cases safe : (checkInput python request.message).safe = true
  · by_cases long : (QueryRouter.classify python regex outside.model request.org_id
      (checkInput python request.message).safe_value).use_rag = true
    · by_cases hit : (outside.faqMatch request.org_id
        (checkInput python request.message).safe_value).matched = true
      · rw [faq_arrives_iff safe long hit]
        simp [Streamable, safe, long, hit]
      · have miss := Bool.not_eq_true _ ▸ hit
        simp [Streamable, safe, miss, generated_arrives safe long miss]
    · have short := Bool.not_eq_true _ ▸ long
      simp [Streamable, safe, short, canned_arrives safe short]
  · have blocked := Bool.not_eq_true _ ▸ safe
    simp [Streamable, blocked, blocked_lost blocked]

/-- An answer of the model comes back where it is one line, and what the pipeline yields arrives
where the message is let in and an answer from the FAQ stays in its line. -/
theorem round_trip_iff (content : String) (python : Python) (regex : Regex)
    (outside : RagSurroundings) (request : ChatRequest) (memory : TicketMemory) :
    (ComesBack content ↔ ∀ char ∈ content.toList, isLineBreak char = false) ∧
      (Arrives python regex outside request memory ↔ Streamable python regex outside request) :=
  ⟨comesBack_iff content, arrives_iff_streamable python regex outside request memory⟩

def stepsFaq : RagSurroundings where
  model := { respond _ := none }
  faqMatch _ _ := { matched := true, answer := "Open settings.\nChange it there." }

def howTo : ChatRequest where
  org_id := "A"
  ticket_id := "t1"
  message := "How do I change my password?"
  window := default_window

/-- Only the first line comes back from the gateway, and nothing behind the first line of an
answer from the FAQ arrives. -/
theorem later_lines_lost :
    ¬ ComesBack "Open settings.\nChange it there." ∧
      ¬ Arrives (.reading .none) noPatterns stepsFaq howTo [] := by
  constructor
  · rw [comesBack_iff]
    intro flat
    have newline : '\n' ∈ "Open settings.\nChange it there.".toList := by simp
    exact absurd (flat '\n' newline) (by decide)
  · intro arrives
    have text : yielded (.reading .none) noPatterns stepsFaq howTo [] =
        .ok "Open settings.\nChange it there.".toList := by
      decide +kernel
    have read := arrives _ text
    revert read
    decide +kernel

end ChatService

end HelpForge.Chatbot
