import HelpForge.Chatbot.Rag.Refinement

set_option autoImplicit false

namespace HelpForge.Chatbot

open Lib.Program (run_bind)

open Lib ChatService

namespace RAGPipeline

variable (python : Python) (regex : Regex) (org_id ticket_id : String)

structure Emitter where
  emit : List Char → PipelineCall Unit
  goes_out : ∀ payload state, ∃ reached, (emit payload).run state = (.ok (), reached) ∧
    reached.memory = state.memory

/-- One turn of a ticket, plain where there is no client to stream to. -/
structure TicketTurn where
  outside : RagSurroundings
  message : String
  ticket_context : Dict Value := []
  mode : String := ""
  client : Option Emitter := none

def TicketTurn.call (turn : TicketTurn) : PipelineCall Unit :=
  match turn.client with
  | none => do
    let _ ← RAGPipeline.run python regex turn.outside org_id ticket_id turn.message
      turn.ticket_context turn.mode
  | some client =>
    stream python regex turn.outside org_id ticket_id turn.message turn.ticket_context turn.mode
      client.emit

def TicketTurn.Shortcut (turn : TicketTurn) : Prop :=
  (checkInput python turn.message).safe = true ∧
    ((QueryRouter.classify python regex turn.outside.model org_id
        (checkInput python turn.message).safe_value).use_rag = false ∨
      (turn.outside.faqMatch org_id (checkInput python turn.message).safe_value).matched = true)

/-- The model gives a summary of any text. -/
def TicketTurn.Summarises (turn : TicketTurn) : Prop :=
  ∀ text, ∃ answer, turn.outside.model.generate (summaryRequest org_id text) = .ok answer

def entries (state : PipelineState) : Nat := (state.memory.messages org_id ticket_id).length

def after (turns : List TicketTurn) (state : PipelineState) : PipelineState :=
  turns.foldl (fun state turn => ((turn.call python regex org_id ticket_id).run state).2) state

variable {python regex org_id ticket_id} {outside : RagSurroundings} {state : PipelineState}

theorem after_append (turns : List TicketTurn) (turn : TicketTurn) :
    after python regex org_id ticket_id (turns ++ [turn]) state =
      ((turn.call python regex org_id ticket_id).run
        (after python regex org_id ticket_id turns state)).2 := by
  simp [after]

theorem entries_remembered (message answer : String) (asked : List ModelRequest)
    (wire : List Char) :
    entries org_id ticket_id
        ⟨remembered state.memory org_id ticket_id message answer, asked, wire⟩ =
      entries org_id ticket_id state + 2 := by
  simp [entries, remembered]

theorem maybeSummarize_short (summaries : ∀ text, ∃ answer,
      outside.model.generate (summaryRequest org_id text) = .ok answer)
    (messages : List MemoryMessage) : ∃ done reached,
    maybeSummarize python (summaryAnswer outside org_id) messages = .ok (done, reached) ∧
      reached.length < summarizeThreshold := by
  unfold maybeSummarize
  split_ifs with short
  · exact ⟨false, messages, rfl, short⟩
  · obtain ⟨answer, answered⟩ := summaries (transcript python (oldMessages messages))
    have summary : generateSummary python (summaryAnswer outside org_id) (oldMessages messages) =
        .ok (stripped answer.content) := by
      simp [generateSummary, summaryAnswer, answered, Value.get, bind, Except.bind,
        pure, Except.pure]
    refine ⟨true, _, by rw [summary]; rfl, ?_⟩
    simp only [List.length_cons, recentMessages, List.length_drop, summarizeThreshold, keepRecent]
    omega

theorem summarize_short (summaries : ∀ text, ∃ answer,
      outside.model.generate (summaryRequest org_id text) = .ok answer) (state : PipelineState) :
    ∃ reached, (summarize python outside org_id ticket_id).run state = (.ok (), reached) ∧
      entries org_id ticket_id reached < summarizeThreshold := by
  by_cases long : summarizeThreshold ≤ (state.memory.messages org_id ticket_id).length
  · obtain ⟨done, compacted, made, short⟩ := @maybeSummarize_short python org_id outside summaries
      (state.memory.messages org_id ticket_id)
    refine ⟨_, by simp [summarize, run_bind, long, made]; rfl, ?_⟩
    simpa [entries] using short
  · refine ⟨state, by simp [summarize, run_bind, long], ?_⟩
    simpa [entries] using long

theorem summaryEffect_short (summaries : ∀ text, ∃ answer,
      outside.model.generate (summaryRequest org_id text) = .ok answer) (memory : TicketMemory) :
    ((summaryEffect python outside org_id ticket_id memory).2.messages org_id ticket_id).length <
      summarizeThreshold := by
  obtain ⟨reached, done, short⟩ := @summarize_short python org_id ticket_id outside summaries
    { memory }
  simp only [summaryEffect, done]
  exact short

section Turn

variable {ticket_context : Dict Value} {mode clean_message : String} {routed : RouteResult}

theorem runRetrieved_short (summaries : ∀ text, ∃ answer,
      outside.model.generate (summaryRequest org_id text) = .ok answer)
    (short : entries org_id ticket_id state < summarizeThreshold) :
    entries org_id ticket_id ((runRetrieved python outside org_id ticket_id ticket_context mode
      clean_message routed).run state).2 < summarizeThreshold := by
  rcases ready : prepare python outside org_id ticket_id ticket_context mode clean_message
    (topKRetrieval * 2) state.memory with error | ⟨docs, request⟩
  · simpa [runRetrieved, run_bind, ready] using short
  · cases answered : outside.model.generate request with
    | error error =>
      simpa [runRetrieved, ask, run_bind, ready, answered, entries] using short
    | ok answer =>
      have compact := @summaryEffect_short python org_id ticket_id outside summaries
        (remembered state.memory org_id ticket_id clean_message
          (checkOutput python answer.content).safe_value)
      cases told : sourcesOf docs with
      | error error =>
        simpa [runRetrieved, ask, run_bind, ready, answered, run_remember,
          run_summaryEffect, told, entries, -bind_pure_comp] using compact
      | ok sources =>
        simpa [runRetrieved, ask, run_bind, ready, answered, run_remember,
          run_summaryEffect, told, entries, -bind_pure_comp] using compact

theorem emitAll_out (client : Emitter) (tokens : List (List Char)) (state : PipelineState) :
    ∃ reached, (emitAll client.emit tokens).run state = (.ok (), reached) ∧
      reached.memory = state.memory := by
  induction tokens generalizing state with
  | nil => exact ⟨state, rfl, rfl⟩
  | cons token rest ih =>
    obtain ⟨first, out, kept⟩ := client.goes_out token state
    obtain ⟨reached, others, same⟩ := ih first
    refine ⟨reached, ?_, same.trans kept⟩
    simp [emitAll, run_bind, out, others]

theorem streamRetrieved_short (summaries : ∀ text, ∃ answer,
      outside.model.generate (summaryRequest org_id text) = .ok answer) (client : Emitter)
    (short : entries org_id ticket_id state < summarizeThreshold) :
    entries org_id ticket_id ((streamRetrieved python outside org_id ticket_id ticket_context mode
      client.emit clean_message).run state).2 < summarizeThreshold := by
  rcases ready : prepare python outside org_id ticket_id ticket_context mode clean_message
    topKRetrieval state.memory with error | ⟨docs, request⟩
  · simpa [streamRetrieved, run_bind, ready] using short
  · cases answered : outside.model.streamGenerate request with
    | error error => simpa [streamRetrieved, run_bind, ready, answered, entries] using short
    | ok tokens =>
      obtain ⟨reached, out, kept⟩ :=
        emitAll_out client tokens { state with asked := state.asked ++ [request] }
      have compact := @summaryEffect_short python org_id ticket_id outside summaries
        (remembered reached.memory org_id ticket_id clean_message
          (checkOutput python (String.ofList tokens.flatten)).safe_value)
      simpa [streamRetrieved, run_bind, ready, answered, out, run_remember,
        run_summaryEffect, entries] using compact

end Turn

variable {turn : TicketTurn}

theorem shortcut_adds (shortcut : turn.Shortcut python regex org_id) (state : PipelineState) :
    ∃ reached, (turn.call python regex org_id ticket_id).run state = (.ok (), reached) ∧
      entries org_id ticket_id reached = entries org_id ticket_id state + 2 := by
  -- In both modes the two messages are stored before the answer goes out.
  obtain ⟨safe, direct⟩ := shortcut
  generalize cleaned : (checkInput python turn.message).safe_value = message at direct
  generalize routed : QueryRouter.classify python regex turn.outside.model org_id message = route
    at direct
  have stored (answer : String) := @entries_remembered org_id ticket_id state message answer
    (state.asked ++ QueryRouter.classifyRequests regex turn.outside.model org_id message) state.wire
  cases called : turn.client with
  | none =>
    by_cases canned : route.use_rag = false
    · refine ⟨_, ?_, stored (QueryRouter.canned route)⟩
      simp [TicketTurn.call, called, RAGPipeline.run, safe, cleaned, routed, canned,
        run_bind, run_route, run_remember, -bind_pure_comp]
    · have matched := direct.resolve_left canned
      refine ⟨_, ?_, stored (turn.outside.faqMatch org_id message).answer⟩
      simp [TicketTurn.call, called, RAGPipeline.run, safe, cleaned, routed, canned, matched,
        run_bind, run_route, run_remember, -bind_pure_comp]
  | some client =>
    by_cases canned : route.use_rag = false
    · obtain ⟨reached, out, kept⟩ := client.goes_out (QueryRouter.canned route).toList
        ⟨remembered state.memory org_id ticket_id message (QueryRouter.canned route),
          state.asked ++ QueryRouter.classifyRequests regex turn.outside.model org_id message,
          state.wire⟩
      refine ⟨reached, ?_, ?_⟩
      · simp [TicketTurn.call, called, stream, safe, cleaned, routed, canned, run_bind,
          run_route, run_remember, out]
      · rw [entries, kept]
        exact stored _
    · have matched := direct.resolve_left canned
      obtain ⟨reached, out, kept⟩ := client.goes_out
        (turn.outside.faqMatch org_id message).answer.toList
        ⟨remembered state.memory org_id ticket_id message
            (turn.outside.faqMatch org_id message).answer,
          state.asked ++ QueryRouter.classifyRequests regex turn.outside.model org_id message,
          state.wire⟩
      refine ⟨reached, ?_, ?_⟩
      · simp [TicketTurn.call, called, stream, safe, cleaned, routed, canned, matched,
          run_bind, run_route, run_remember, out]
      · rw [entries, kept]
        exact stored _

theorem dropped_result {α : Type} (call : PipelineCall α) (state : PipelineState) :
    ((do let _ ← call : PipelineCall Unit).run state).2 = (call.run state).2 := by
  rw [run_bind]
  rcases call.run state with ⟨error | value, reached⟩
  · rfl
  · rfl

theorem turn_short (summaries : turn.Summarises org_id)
    (unshortened : ¬turn.Shortcut python regex org_id)
    (short : entries org_id ticket_id state < summarizeThreshold) :
    entries org_id ticket_id ((turn.call python regex org_id ticket_id).run state).2 <
      summarizeThreshold := by
  by_cases safe : (checkInput python turn.message).safe = true
  · generalize cleaned : (checkInput python turn.message).safe_value = message at *
    have direct := not_and.mp unshortened safe
    rw [cleaned, not_or] at direct
    have rag : (QueryRouter.classify python regex turn.outside.model org_id message).use_rag =
        true := by simpa using direct.1
    have unmatched : (turn.outside.faqMatch org_id message).matched = false := by
      simpa using direct.2
    have same : entries org_id ticket_id
        ⟨state.memory, state.asked ++ QueryRouter.classifyRequests regex turn.outside.model org_id
          message, state.wire⟩ < summarizeThreshold := short
    cases called : turn.client with
    | none =>
      have compact := @runRetrieved_short python org_id ticket_id turn.outside _ turn.ticket_context
        turn.mode message
        (QueryRouter.classify python regex turn.outside.model org_id message) summaries same
      simp only [TicketTurn.call, called]
      rw [dropped_result]
      simpa [RAGPipeline.run, safe, cleaned, rag, unmatched, run_bind, run_route] using
        compact
    | some client =>
      have compact := @streamRetrieved_short python org_id ticket_id turn.outside _
        turn.ticket_context turn.mode message summaries client same
      simpa [TicketTurn.call, called, stream, safe, cleaned, rag, unmatched, run_bind,
        run_route] using compact
  · cases called : turn.client with
    | none => simpa [TicketTurn.call, called, RAGPipeline.run, safe, run_bind] using short
    | some client =>
      obtain ⟨first, out, kept⟩ := client.goes_out (EventStream.frame
        (orElse (checkInput python turn.message).safe_value injectionResponse).toList) state
      obtain ⟨last, done, same⟩ := client.goes_out (EventStream.frame LanguageModel.doneMark) first
      simp only [TicketTurn.call, called, stream, safe, run_bind, out, done, if_false,
        Bool.false_eq_true]
      rw [entries, same, kept]
      exact short

variable (python regex org_id ticket_id) in
/-- After each turn that comes to its end, the list is shorter than what calls for a summary. -/
def StaysShort (turns : List TicketTurn) (start : PipelineState) : Prop :=
  ∀ before turn reached, before ++ [turn] <+: turns →
    (turn.call python regex org_id ticket_id).run
        (after python regex org_id ticket_id before start) = (.ok (), reached) →
    entries org_id ticket_id reached < summarizeThreshold

variable (python regex org_id ticket_id) in
/-- Each turn that ends at a canned answer or at the FAQ finds room for its two messages. -/
def RoomForShortcuts (turns : List TicketTurn) (start : PipelineState) : Prop :=
  ∀ before turn, before ++ [turn] <+: turns → turn.Shortcut python regex org_id →
    entries org_id ticket_id (after python regex org_id ticket_id before start) + 2 <
      summarizeThreshold

theorem turn_bounded (summaries : turn.Summarises org_id)
    (room : turn.Shortcut python regex org_id →
      entries org_id ticket_id state + 2 < summarizeThreshold)
    (short : entries org_id ticket_id state < summarizeThreshold) :
    entries org_id ticket_id ((turn.call python regex org_id ticket_id).run state).2 <
      summarizeThreshold := by
  by_cases shortcut : turn.Shortcut python regex org_id
  · obtain ⟨reached, done, added⟩ :=
      @shortcut_adds python regex org_id ticket_id turn shortcut state
    rw [done, added]
    exact room shortcut
  · exact turn_short summaries shortcut short

theorem run_bounded {turns : List TicketTurn} {start : PipelineState}
    (summaries : ∀ turn ∈ turns, turn.Summarises org_id)
    (short : entries org_id ticket_id start < summarizeThreshold)
    (room : RoomForShortcuts python regex org_id ticket_id turns start)
    (before : List TicketTurn) (early : before <+: turns) :
    entries org_id ticket_id (after python regex org_id ticket_id before start) <
      summarizeThreshold := by
  induction before using List.reverseRecOn with
  | nil => exact short
  | append_singleton before turn ih =>
    have earlier := ih ((List.prefix_append before [turn]).trans early)
    have among : turn ∈ turns := early.subset (by simp)
    rw [after_append]
    exact turn_bounded (summaries turn among) (room before turn early) earlier

/-- The list of a ticket stays short just when the turns that do not compact it come in time. -/
theorem memory_bounded_iff (python : Python) (regex : Regex) (org_id ticket_id : String)
    (turns : List TicketTurn) (start : PipelineState)
    (summaries : ∀ turn ∈ turns, turn.Summarises org_id)
    (short : entries org_id ticket_id start < summarizeThreshold) :
    StaysShort python regex org_id ticket_id turns start ↔
      RoomForShortcuts python regex org_id ticket_id turns start := by
  constructor
  · intro stays before turn early shortcut
    obtain ⟨reached, done, added⟩ := @shortcut_adds python regex org_id ticket_id turn shortcut
      (after python regex org_id ticket_id before start)
    have within := stays before turn reached early done
    omega
  · intro room before turn reached early done
    have within := run_bounded summaries short room (before ++ [turn]) early
    rw [after_append, done] at within
    exact within

/-- A pattern that finds a greeting. -/
def greets : Regex where
  search pattern _ := QueryRouter.smallTalkRules.head?.any fun rule => rule.pattern == pattern
  finditer _ _ _ := []

def greeting : TicketTurn where
  outside := { model := { respond := fun _ => some { content := "The customer says hi." } } }
  message := "hi"

theorem greeting_shortcut : greeting.Shortcut (.reading .none) greets "acme" := by
  have safe : (checkInput (.reading .none) greeting.message).safe = true := by decide +kernel
  have canned : (QueryRouter.classify (.reading .none) greets greeting.outside.model "acme"
      (checkInput (.reading .none) greeting.message).safe_value).use_rag = false := by
    decide +kernel
  exact ⟨safe, .inl canned⟩

theorem one_greeting_fits :
    StaysShort (.reading .none) greets "acme" "t1" [greeting] {} := by
  have summaries : ∀ turn ∈ [greeting], turn.Summarises "acme" := by
    intro turn among
    rw [List.mem_singleton.mp among]
    exact fun text => ⟨_, rfl⟩
  apply (memory_bounded_iff (.reading .none) greets "acme" "t1" [greeting] {} summaries
    (by decide)).mpr
  intro before turn early shortcut
  have single := early.length_le
  rw [List.length_append, List.length_singleton, List.length_singleton] at single
  have first : before = [] := List.length_eq_zero_iff.mp (by omega)
  rw [first]
  decide

theorem after_shortcuts (shortcut : turn.Shortcut python regex org_id) (count : Nat)
    (start : PipelineState) :
    entries org_id ticket_id
        (after python regex org_id ticket_id (List.replicate count turn) start) =
      entries org_id ticket_id start + 2 * count := by
  induction count with
  | zero => rfl
  | succ count ih =>
    obtain ⟨reached, done, added⟩ := @shortcut_adds python regex org_id ticket_id turn shortcut
      (after python regex org_id ticket_id (List.replicate count turn) start)
    rw [List.replicate_succ', after_append, done, added, ih]
    omega

/-- Ten greetings are twenty messages. -/
theorem ten_greetings_overflow :
    ¬StaysShort (.reading .none) greets "acme" "t1" (List.replicate 10 greeting) {} := by
  intro stays
  have nine := @after_shortcuts (.reading .none) greets "acme" "t1" greeting greeting_shortcut 9 {}
  obtain ⟨reached, done, added⟩ := @shortcut_adds (.reading .none) greets "acme" "t1" greeting
    greeting_shortcut (after (.reading .none) greets "acme" "t1" (List.replicate 9 greeting) {})
  have within := stays (List.replicate 9 greeting) greeting reached (List.prefix_refl _) done
  rw [added, nine] at within
  exact absurd within (by decide)

end RAGPipeline

end HelpForge.Chatbot
