import HelpForge.Chatbot.Agent.Steps

set_option autoImplicit false

namespace HelpForge.Chatbot

open Lib

section Augmentation

variable (python : Python) (script : Script) (inp : AgentInput) (start : AgentState)

def ExecutesNothing : Prop :=
  ((agentRun python script inp).run start).2.executions = start.executions

def ActsAt (step : Nat) : Prop :=
  ∃ name input, toolCallAt python script inp step = some (name, input) ∧
    start.runnable name ≠ none

def NeverActs : Prop :=
  -- No output up to the step limit, with only tool calls before it, asks for a tool that could be
  -- executed.
  ∀ step < maxAgentSteps, (∀ k ≤ step, (toolCallAt python script inp k).isSome) →
    ¬ActsAt python script inp start step

variable {python script inp start}

theorem executions_stateAfter (real : inp.dry_run = false) (step : Nat)
    (asked : ∀ k < step, (toolCallAt python script inp k).isSome) :
    (stateAfter python script inp start step).executions = start.executions ∧
        (stateAfter python script inp start step).call_count = 0 ∧
        (∀ k < step, ¬ActsAt python script inp start k) ∨
      start.executions.length < (stateAfter python script inp start step).executions.length ∧
        ∃ k < step, ActsAt python script inp start k := by
  -- The first tool that can be executed is executed: the call limit cannot stand in its way.
  induction step with
  | zero => exact .inl ⟨rfl, rfl, nofun⟩
  | succ step ih =>
    have before := ih fun k earlier => asked k (by omega)
    obtain ⟨⟨name, input⟩, wanted⟩ := Option.isSome_iff_exists.mp (asked step (by omega))
    obtain ⟨result, reached, run, next, -⟩ := stateAfter_succ start step name input wanted
    have same := @runnable_stateAfter python script inp start step name
    generalize stateAfter python script inp start step = state at before run same
    rw [next]
    cases runnable : start.runnable name with
    | none =>
      obtain ⟨result', run'⟩ := @run_toolStep_refused python script inp name input state real
        fun _ => same.trans runnable
      rw [run] at run'
      cases run'
      rcases before with ⟨none_yet, fresh, idle⟩ | ⟨longer, k, earlier, acts⟩
      · refine .inl ⟨none_yet, fresh, ?_⟩
        intro k within
        rcases Nat.lt_succ_iff_lt_or_eq.mp within with earlier | rfl
        · exact idle k earlier
        · rintro ⟨name', input', wanted', able⟩
          rw [wanted] at wanted'
          cases wanted'
          exact able runnable
      · exact .inr ⟨longer, k, by omega, acts⟩
    | some tool =>
      have acts : ActsAt python script inp start step :=
        ⟨name, input, wanted, by rw [runnable]; nofun⟩
      right
      refine ⟨?_, step, by omega, acts⟩
      by_cases within : state.call_count < maxToolCallsPerRun
      · obtain ⟨result', attempts, run'⟩ := @run_toolStep_runnable python script inp name input
          state real tool within (same.trans runnable)
        rw [run] at run'
        cases run'
        have kept : start.executions.length ≤ state.executions.length := by
          rcases before with ⟨none_yet, -⟩ | ⟨longer, -⟩
          · rw [none_yet]
          · omega
        simp only [AgentState.attempted, List.length_append, List.length_replicate]
        omega
      · obtain ⟨result', run'⟩ := @run_toolStep_refused python script inp name input state real
          fun below => absurd below within
        rw [run] at run'
        cases run'
        rcases before with ⟨-, fresh, -⟩ | ⟨longer, -⟩
        · simp [fresh, maxToolCallsPerRun] at within
        · exact longer

/-- A run that is not a dry one, in augmentation mode as in any other, executes no tool
exactly if its query is refused or no output brings a tool that could be executed. -/
theorem executes_nothing_iff (real : inp.dry_run = false) :
    ExecutesNothing python script inp start ↔
      (checkInput python inp.query).safe = false ∨ NeverActs python script inp start := by
  cases safe : (checkInput python inp.query).safe with
  | false =>
    refine iff_of_true ?_ (.inl rfl)
    rw [ExecutesNothing, agentRun_blocked start safe]
    simp only [blocked, real, Bool.false_eq_true, if_false, Program.run_pure]
  | true =>
    obtain ⟨steps, few, asked, ends⟩ := @agentRun_ends python script inp start safe
    have whole := @executions_stateAfter python script inp start real steps asked
    rw [ExecutesNothing, ends.frame.2.1]
    simp only [Bool.true_eq_false, false_or]
    constructor
    · intro nothing step early wanted
      rcases whole with ⟨-, -, idle⟩ | ⟨longer, -⟩
      · exact idle step (ends.covers step early wanted)
      · rw [nothing] at longer
        exact absurd longer (lt_irrefl _)
    · intro never
      rcases whole with ⟨nothing, -⟩ | ⟨-, step, early, acts⟩
      · exact nothing
      · exact absurd acts (never step (by omega) fun k earlier => asked k (by omega))

end Augmentation

def suggestion : String :=
  "\x7b\"action\": \"suggest\", \"confidence\": 1, \"reasoning\": \"known issue\", " ++
    "\"message\": \"Offer a refund.\"\x7d"

def suggestionData : Value := .dict
  [("action", .str "suggest"), ("confidence", .int 1), ("reasoning", .str "known issue"),
    ("message", .str "Offer a refund.")]

def advice : AgentInput where
  mode := .augmentation
  org_id := "A"
  ticket_id := "t1"
  query := "What can I offer?"

theorem suggestion_executes_nothing :
    ExecutesNothing (.reading suggestionData) (.saying [suggestion]) advice
      {} := by
  refine (executes_nothing_iff rfl).mpr (.inr ?_)
  intro step early asked
  exact absurd (asked 0 (Nat.zero_le _)) (by decide +kernel)

def escalation : String :=
  "\x7b\"action\": \"tool_call\", \"tool\": \"escalate_ticket\", \"tool_input\": " ++
    "\x7b\"ticket_id\": \"t1\", \"org_id\": \"A\", \"reason\": \"angry customer\"\x7d, " ++
    "\"confidence\": 1, \"reasoning\": \"urgent\", \"message\": \"Escalating.\"\x7d"

def escalationData : Value := .dict
  [("action", .str "tool_call"), ("tool", .str "escalate_ticket"),
    ("tool_input", .dict
      [("ticket_id", .str "t1"), ("org_id", .str "A"), ("reason", .str "angry customer")]),
    ("confidence", .int 1), ("reasoning", .str "urgent"), ("message", .str "Escalating.")]

/-- A human agent asks for advice, and the ticket is escalated. -/
theorem advice_escalates :
    ¬ExecutesNothing (.reading escalationData) (.saying [escalation]) advice
      {} := by
  intro nothing
  have executed : ((agentRun (.reading escalationData) (Script.saying [escalation])
      advice).run {}).2.executions.length = 1 := by
    decide +kernel
  rw [nothing] at executed
  cases executed

end HelpForge.Chatbot
