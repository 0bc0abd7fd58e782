import HelpForge.Automation.Disabled

set_option autoImplicit false

namespace HelpForge.Automation

open Lib Tickets

section Misread

variable {setup : Setup} {provider : Provider} {state : AutomationWorld}
  {suggestionText : CommentedTicket → TicketComment → Nat → String} {ticket : CommentedTicket}

theorem no_summary (payload : TicketSummary) :
    ((generateTicketSummaryFromTicket setup provider ticket).run state).1 ≠ .ok payload := by
  -- Whatever the provider returns, no summary is built of it.
  unfold generateTicketSummaryFromTicket
  rw [Program.run_bind]
  rcases (provider.generateAISummary ticket.organizationId .agentSummary ticket.comments).run
    state with ⟨failure | summary, reached⟩
  · exact nofun
  · -- The result is an object.
    have cut : generateIssueSummary ticket.toTicket (.object summary) =
      .error (.javascript "TypeError" "aiSummary?.substring is not a function") := rfl
    dsimp only
    rw [cut]
    exact nofun

theorem no_quickAssist (abortReason : Option String) (ticketId : Nat) (payload : QuickAssist) :
    ((generateQuickAssist setup provider suggestionText abortReason ticketId).run state).1 ≠
      .ok (some payload) := by
  have noAssist (ticket : CommentedTicket) (state : AutomationWorld) :
      ((assistAtOnce setup provider suggestionText ticketId ticket).run state).1 ≠
        .ok (some payload) := by
    unfold assistAtOnce
    rw [Program.run_bind, Program.run_outcome]
    dsimp only
    rw [Program.run_bind, Program.run_outcome]
    dsimp only
    -- A failure of the suggestion is thrown first.
    rcases (generateAgentSuggestionFromTicket setup provider suggestionText ticket).run state with
      ⟨failure | suggestion, asked⟩
    · exact nofun
    · dsimp only
      rcases ran : (generateTicketSummaryFromTicket setup provider ticket).run asked with
        ⟨failure | summary, reached⟩
      · exact nofun
      · exact absurd (by rw [ran]) (no_summary summary)
  unfold generateQuickAssist
  rw [Program.run_bind, run_getTicketWithComments]
  by_cases down : state.down .database = true
  · rw [if_pos down]
    exact nofun
  rw [if_neg down]
  cases state.db.findTicket ticketId with
  | none => exact nofun
  | some row =>
    cases abortReason with
    | some reason => exact nofun
    | none => exact noAssist (commented state.db row) state

theorem suggestion_alike (payload : AgentSuggestion)
    (returned : ((generateAgentSuggestionFromTicket setup provider suggestionText ticket).run
      state).1 = .ok (some payload)) (other : AIResult) :
    payload.metrics = calculateSuggestionQuality setup (.object other) ∧
      payload.copySuggestion = buildCopySuggestion (.object other) 50 := by
  -- A suggestion is judged and shown as any other result would be.
  unfold generateAgentSuggestionFromTicket at returned
  cases last : ticket.comments.reverse.find? fun comment => comment.authorType == .user with
  | none =>
    rw [last] at returned
    cases returned
  | some lastUserComment =>
    rw [last] at returned
    dsimp only [currentTime] at returned
    rw [Program.run_bind, Program.run_reads] at returned
    dsimp only at returned
    rw [Program.run_bind] at returned
    rcases ran : (provider.generateAIResponse ticket.organizationId .agentSuggestion
      (suggestionText ticket lastUserComment state.now)).run state with
      ⟨failure | suggestion, reached⟩
    · rw [ran] at returned
      cases returned
    · rw [ran] at returned
      cases returned
      exact ⟨rfl, rfl⟩

variable (setup provider suggestionText ticket state) in
/-- Nothing that helps an agent is made of the content that the provider returns. -/
theorem results_never_consumed (abortReason : Option String) (ticketId : Nat) :
    (∀ payload,
      ((generateTicketSummaryFromTicket setup provider ticket).run state).1 ≠ .ok payload) ∧
    (∀ payload,
      ((generateQuickAssist setup provider suggestionText abortReason ticketId).run state).1 ≠
        .ok (some payload)) ∧
    ∀ payload,
      ((generateAgentSuggestionFromTicket setup provider suggestionText ticket).run state).1 =
        .ok (some payload) →
      ∀ other, payload.metrics = calculateSuggestionQuality setup (.object other) ∧
        payload.copySuggestion = buildCopySuggestion (.object other) 50 :=
  ⟨no_summary, no_quickAssist abortReason ticketId, suggestion_alike⟩

end Misread

/-- A provider that always answers the same. -/
def advisor : Provider where
  generateAIResponse _ _ context :=
    pure ⟨"Please restart it.", buildAIUsage context "Please restart it."⟩
  generateAISummary _ _ _ := pure ⟨"A broken router", buildAIUsage "" "A broken router"⟩

/-- A quick assist fails, and an excellent suggestion is shown as a fair one. -/
theorem advice_not_read :
    ((generateQuickAssist plainSetup advisor plainSuggestion none 1).run quietShop).1 =
        .error (.javascript "TypeError" "aiSummary?.substring is not a function") ∧
      ((generateAgentSuggestion plainSetup advisor plainSuggestion 1).run
          { quietShop with configs := [] }).1.map (·.map (·.metrics.quality)) =
        .ok (some .fair) ∧
      (calculateSuggestionQuality plainSetup (.text "Please restart it.")).quality =
        .excellent :=
  ⟨rfl, by decide +kernel, by decide +kernel⟩

end HelpForge.Automation
