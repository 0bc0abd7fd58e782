import HelpForge.Chatbot.Agent.Augmentation

set_option autoImplicit false

namespace HelpForge.Chatbot

open Lib

def Passed (python : Python) (mode : AgentMode) (answer : Value) (action : AgentAction) : Prop :=
  ∃ text entries, answer.get "content" (.str "") = .ok (.str text) ∧
    extractJson python text = .ok (.dict entries) ∧
    agentValidator.validate python (Dict.put entries "mode" (.str mode.value)) = .ok () ∧
    entries.lookup "action" = some (.str action.value)

structure Readable (mode : AgentMode) (decision : AgentDecision) : Prop where
  mode_eq : decision.mode = mode
  confidence : 0 ≤ decision.confidence ∧ decision.confidence ≤ 1
  message : decision.message ≠ ""
  tool : decision.action = .tool_call → decision.wantsTool = true

section Reading

variable {python : Python} {mode : AgentMode}

theorem readable_fallback (reason : String) : Readable mode (buildFallbackDecision mode reason) where
  mode_eq := rfl
  confidence := by
    change (0 : Rat) ≤ 0 ∧ (0 : Rat) ≤ 1
    decide
  message := by
    change fallbackMessage ≠ ""
    decide
  tool := nofun

theorem ofValue_value (text : String) (action : AgentAction)
    (named : AgentAction.ofValue text = some action) : text = action.value := by
  have found := List.find?_some named
  exact (of_decide_eq_true found).symm

theorem asStr_some (value : Value) (text : String) (read : value.asStr = some text) :
    value = .str text := by
  cases value <;> simp_all [Value.asStr]

theorem ofData_ok (data : Dict Value) (decision : AgentDecision)
    (made : AgentDecision.ofData python mode data = .ok decision) :
    decision.mode = mode ∧ (0 ≤ decision.confidence ∧ decision.confidence ≤ 1) ∧
      data.lookup "action" = some (.str decision.action.value) ∧
      data.lookup "message" = some (.str decision.message) ∧
      ∀ tool, data.lookup "tool" = some (.str tool) → decision.tool = some tool := by
  unfold AgentDecision.ofData at made
  dsimp only at made
  split at made
  next found validated =>
    cases made
    obtain ⟨action, action_found, validated⟩ := Option.bind_eq_some_iff.mp validated
    obtain ⟨text, action_read, validated⟩ := Option.bind_eq_some_iff.mp validated
    obtain ⟨named, action_named, validated⟩ := Option.bind_eq_some_iff.mp validated
    obtain ⟨tool, tool_found, validated⟩ := Option.bind_eq_some_iff.mp validated
    obtain ⟨tool', tool_read, validated⟩ := Option.bind_eq_some_iff.mp validated
    obtain ⟨_, -, validated⟩ := Option.bind_eq_some_iff.mp validated
    obtain ⟨_, -, validated⟩ := Option.bind_eq_some_iff.mp validated
    obtain ⟨_, -, validated⟩ := Option.bind_eq_some_iff.mp validated
    split at validated
    · split_ifs at validated with range
      · simp only [bind, pure, Option.bind_eq_some_iff, Option.some.injEq] at validated
        obtain ⟨confidence, rfl, _, -, _, -, message, message_found, text', message_read, _, -,
          _, -, _, -, _, -, rfl⟩ := validated
        obtain rfl := ofValue_value text named action_named
        obtain rfl := asStr_some action named.value action_read
        obtain rfl := asStr_some message text' message_read
        refine ⟨rfl, range, action_found, message_found, ?_⟩
        intro wanted asked
        rw [tool_found, Option.some.injEq] at asked
        subst asked
        simp only [AgentDecision.ofData.optional, Value.asStr, Option.map_some,
          Option.some.injEq] at tool_read
        exact tool_read.symm
      · cases validated
    · cases validated
  next => cases made

theorem unless_eq_ok {ε : Type} (refused : Prop) [Decidable refused] (error : ε) :
    (if refused then .error error else pure () : Except ε Unit) = .ok () ↔ ¬refused := by
  by_cases holds : refused <;> simp [holds, pure, Except.pure]

variable (validator : AgentValidator) (data : Dict Value)

theorem checkValues_ok :
    validator.checkValues python data = .ok () ↔
      ∃ action confidence,
        ((data.lookup "action").getD .none).asStr.bind AgentAction.ofValue = some action ∧
        toFloat ((data.lookup "confidence").getD .none) = .ok (some confidence) ∧
        (0 ≤ confidence ∧ confidence ≤ 1) ∧
        (action = .tool_call → validator.checkTool python data = .ok ()) ∧
        stripped (((data.lookup "message").bind Value.asStr).getD "") ≠ "" := by
  -- Only the check of a tool goes by the names that the validator has.
  unfold AgentValidator.checkValues
  dsimp only
  cases ((data.lookup "action").getD .none).asStr.bind AgentAction.ofValue with
  | none => simp
  | some action =>
    rcases toFloat ((data.lookup "confidence").getD .none) with error | _ | confidence
    · simp [bind, Except.bind]
    · simp [bind, Except.bind]
    · by_cases ranged : 0 ≤ confidence ∧ confidence ≤ 1
      · by_cases tool : action = .tool_call
        · cases validator.checkTool python data with
          | error error => simp [bind, Except.bind, ranged, tool]
          | ok checked => simp [bind, Except.bind, ranged, tool, unless_eq_ok]
        · simp [bind, Except.bind, ranged, tool, unless_eq_ok]
      · simp [bind, Except.bind, ranged]

theorem checkTool_ok (valid : validator.checkTool python data = .ok ()) :
    ∃ tool, data.lookup "tool" = some (.str tool) ∧ tool ≠ "" := by
  unfold AgentValidator.checkTool at valid
  split at valid
  next tool found =>
    refine ⟨tool, found, ?_⟩
    rintro rfl
    simp at valid
  next => cases valid

theorem validate_ok (valid : validator.validate python data = .ok ()) :
    stripped (((data.lookup "message").bind Value.asStr).getD "") ≠ "" ∧
      (data.lookup "action" = some (.str "tool_call") →
        ∃ tool, data.lookup "tool" = some (.str tool) ∧ tool ≠ "") := by
  unfold AgentValidator.validate at valid
  rw [bind_eq_ok] at valid
  obtain ⟨_, -, valid⟩ := valid
  obtain ⟨action, confidence, named, -, -, tool, message⟩ :=
    (checkValues_ok validator data).mp valid
  refine ⟨message, fun calls => checkTool_ok validator data (tool ?_)⟩
  rw [calls] at named
  exact (Option.some.inj named).symm

def completed (data : Dict Value) (confidence : Rat) : Dict Value :=
  let data := Dict.put data "confidence" (.float (roundTo 4 (min 1 (max 0 confidence))))
  let data := Dict.setdefault data "tool" .none
  let data := Dict.setdefault data "tool_input" (.dict [])
  let data := Dict.setdefault data "tool_result" .none
  Dict.setdefault data "metadata" (.dict [])

theorem lookup_completed (confidence : Rat) :
    (completed data confidence).lookup "action" = data.lookup "action" ∧
      (completed data confidence).lookup "message" = data.lookup "message" ∧
      ∀ tool, data.lookup "tool" = some tool →
        (completed data confidence).lookup "tool" = some tool := by
  refine ⟨?_, ?_, fun tool found => ?_⟩
  · simp [completed, Dict.lookup_setdefault, Dict.lookup_put]
  · simp [completed, Dict.lookup_setdefault, Dict.lookup_put]
  · simp [completed, Dict.lookup_setdefault, Dict.lookup_put, found]

theorem decisionOf_ok (data : Value) (decision : AgentDecision)
    (made : decisionOf python agentValidator mode data = .ok decision) :
    Readable mode decision ∧ (decision.action ≠ .escalate →
      ∃ entries, data = .dict entries ∧
        agentValidator.validate python (Dict.put entries "mode" (.str mode.value)) = .ok () ∧
        entries.lookup "action" = some (.str decision.action.value)) := by
  unfold decisionOf at made
  split at made
  next entries =>
    dsimp only at made
    split at made
    next error refused =>
      split_ifs at made
      cases made
      exact ⟨readable_fallback _, fun acts => absurd rfl acts⟩
    next valid =>
      obtain ⟨number, -, made⟩ := (bind_eq_ok _ _ _).mp made
      obtain ⟨mode_eq, ranged, action, message, tool⟩ := ofData_ok
        (completed (Dict.put entries "mode" (.str mode.value)) (number.getD 0)) decision made
      obtain ⟨nonempty, calls⟩ := validate_ok agentValidator _ valid
      obtain ⟨same_action, same_message, same_tool⟩ :=
        lookup_completed (Dict.put entries "mode" (.str mode.value)) (number.getD 0)
      rw [same_action] at action
      rw [same_message] at message
      have untouched : entries.lookup "action" = some (.str decision.action.value) := by
        rw [Dict.lookup_put] at action
        exact action
      refine ⟨⟨mode_eq, ranged, ?_, ?_⟩, fun _ => ⟨entries, rfl, valid, untouched⟩⟩
      · rintro empty
        rw [message, empty] at nonempty
        exact nonempty rfl
      · intro acts
        rw [acts] at action
        obtain ⟨name, found, named⟩ := calls action
        have called : decision.tool = some name := tool name (same_tool _ found)
        simp [AgentDecision.wantsTool, acts, called, named]
  next => cases made

theorem readReply_ok (inp : AgentInput) (answer tokens : Value) (decision : AgentDecision)
    (read : readReply python inp answer = .ok (tokens, decision)) :
    Readable inp.mode decision ∧
      (decision.action ≠ .escalate → Passed python inp.mode answer decision.action) := by
  unfold readReply at read
  obtain ⟨usage, -, read⟩ := (bind_eq_ok _ _ _).mp read
  obtain ⟨counted, -, read⟩ := (bind_eq_ok _ _ _).mp read
  obtain ⟨content, said, read⟩ := (bind_eq_ok _ _ _).mp read
  obtain ⟨decision', parsed, made⟩ := (bind_eq_ok _ _ _).mp read
  cases made
  unfold parseAndValidate at parsed
  split at parsed
  next text =>
    split at parsed
    next error failed =>
      split_ifs at parsed
      cases parsed
      exact ⟨readable_fallback _, fun acts => absurd rfl acts⟩
    next data extracted =>
      obtain ⟨readable, passed⟩ := decisionOf_ok data decision parsed
      refine ⟨readable, fun acts => ?_⟩
      obtain ⟨entries, rfl, valid, action⟩ := passed acts
      exact ⟨text, entries, said, extracted, valid, action⟩
  next => cases parsed

end Reading

variable {outcome : Except PyError AgentDecision × AgentState} {steps : Nat}

section Runs

variable (python : Python) (script : Script) (inp : AgentInput) (start : AgentState)

def decisionCalls : Nat :=
  ((agentRun python script inp).run start).2.asked.length - start.asked.length

variable {python script inp start}

theorem execute_asked (gateway : ActionGateway) (name : String) (input : Dict Value)
    (state : AgentState) :
    ((execute python gateway name input).run state).2.asked = state.asked := by
  by_cases refused : state.call_count < maxToolCallsPerRun → state.runnable name = none
  · obtain ⟨result, run⟩ := @run_execute_refused python gateway name input state refused
    rw [run]
  obtain ⟨within, runnable⟩ := Classical.not_imp.mp refused
  obtain ⟨tool, runnable⟩ := Option.ne_none_iff_exists'.mp runnable
  obtain ⟨result, attempts, -, run⟩ :=
    @run_execute_runnable python gateway name input state tool within runnable
  rw [run]
  rfl

theorem toolStep_asked (outside : Surroundings) (name : String) (input : Dict Value)
    (state : AgentState) :
    ((toolStep python outside inp name input).run state).2.asked = state.asked := by
  cases dry : inp.dry_run with
  | true =>
    simp only [toolStep, dry, if_true, Program.run_bind, Program.run_reads, Program.run_modify,
      Program.run_pure]
  | false =>
    have asked := @execute_asked python outside.gateway name input state
    simp only [toolStep, dry, Bool.false_eq_true, if_false, Program.run_bind]
    rcases ran : (execute python outside.gateway name input).run state with
      ⟨failure | result, reached⟩ <;> rw [ran] at asked
    · exact asked
    · simp only [Program.run_modify, Program.run_pure]
      exact asked

variable (step : Nat)

theorem asked_stateAfter :
    (stateAfter python script inp start step).asked.length =
      start.asked.length + (firstPrompts python script inp start).length * (step + 1) := by
  induction step with
  | zero => simp [stateAfter]
  | succ step ih =>
    simp only [stateAfter, List.length_append, List.length_map, toolStep_asked, ih]
    rw [Nat.mul_add _ (step + 1) 1]
    omega

theorem Ends.asked (ends : Ends python script inp start steps outcome) :
    outcome.2.asked = (stateAfter python script inp start steps).asked := by
  cases ends with
  | failed error fails => rfl
  | answered tokens decision turn said noTool final => rw [run_conclude]
  | exhausted turn limit wants final => rw [run_conclude]

theorem length_firstPrompts_le : (firstPrompts python script inp start).length ≤ 1 := by
  unfold firstPrompts
  cases firstParts python script inp <;> simp [Except.toOption]

theorem length_firstPrompts (answer : Value × AgentDecision)
    (said : reply python script inp step = .ok answer) :
    (firstPrompts python script inp start).length = 1 := by
  unfold reply at said
  obtain ⟨parts, built, -⟩ := (bind_eq_ok _ _ _).mp said
  rw [firstPrompts_eq built]
  rfl

theorem toolCallAt_some (wanted : (toolCallAt python script inp step).isSome) :
    ∃ tokens decision, reply python script inp step = .ok (tokens, decision) ∧
      decision.wantsTool = true := by
  unfold toolCallAt at wanted
  split at wanted
  next tokens decision said =>
    refine ⟨tokens, decision, said, ?_⟩
    by_contra without
    simp [without] at wanted
  next => simp at wanted

variable (python script inp start) in
/-- A decision that a caller can act on. Unless it escalates, it acts as the last output of the
run says. -/
structure SoundDecision (decision : AgentDecision) : Prop where
  mode_eq : decision.mode = inp.mode
  confidence : 0 ≤ decision.confidence ∧ decision.confidence ≤ 1
  message : decision.message ≠ ""
  noTool : decision.action ≠ .tool_call
  last : decision.action ≠ .escalate → ∃ step answer,
    decisionCalls python script inp start = step + 1 ∧ script.outputs step = .ok answer ∧
      Passed python inp.mode answer decision.action

variable (decision : AgentDecision)

theorem guarded_message (message : decision.message ≠ "") :
    (guarded python decision).message ≠ "" := by
  unfold guarded checkOutput
  split
  · change _ ++ _ ≠ ""
    decide
  · exact message

theorem SoundDecision.escalating (readable : Readable inp.mode decision)
    (escalates : decision.action = .escalate) : SoundDecision python script inp start decision where
  mode_eq := readable.mode_eq
  confidence := readable.confidence
  message := readable.message
  noTool := by rw [escalates]; nofun
  last acts := absurd escalates acts

theorem run_blocked_sound (guard : GuardResult) (state : AgentState) :
    ∃ decision final, (blocked inp guard).run state = (.ok decision, final) ∧
      SoundDecision python script inp start decision ∧ final.asked = state.asked := by
  -- The query is refused: the decision is the fallback, perhaps with another message.
  have readable (metadata : Dict Value) (message : String) (nonempty : message ≠ "") :
      Readable inp.mode { buildFallbackDecision inp.mode ("Input blocked: " ++ guard.reason) with
        message, metadata } :=
    { readable_fallback ("Input blocked: " ++ guard.reason) with message := nonempty }
  have fallback : fallbackMessage ≠ "" := by decide
  unfold blocked
  by_cases empty : guard.safe_value = ""
  · simp only [empty, if_true]
    cases dry : inp.dry_run with
    | true => exact ⟨_, _, rfl, .escalating _ (readable _ _ fallback) rfl, rfl⟩
    | false => exact ⟨_, _, rfl, .escalating _ (readable _ _ fallback) rfl, rfl⟩
  · simp only [empty, if_false]
    cases dry : inp.dry_run with
    | true => exact ⟨_, _, rfl, .escalating _ (readable _ _ empty) rfl, rfl⟩
    | false => exact ⟨_, _, rfl, .escalating _ (readable _ _ empty) rfl, rfl⟩

theorem Ends.decisionCalls_eq
    (ends : Ends python script inp start steps ((agentRun python script inp).run start)) :
    decisionCalls python script inp start =
      (firstPrompts python script inp start).length * (steps + 1) := by
  rw [decisionCalls, ends.asked, asked_stateAfter]
  omega

theorem Ends.sound (ends : Ends python script inp start steps outcome)
    (counted : decisionCalls python script inp start =
      (firstPrompts python script inp start).length * (steps + 1)) :
    ∃ decision final, outcome = (.ok decision, final) ∧
      SoundDecision python script inp start decision := by
  cases ends with
  | failed error fails =>
    have readable : Readable inp.mode { buildFallbackDecision inp.mode
        ("Unhandled exception: " ++ error.name) with
          metadata := Dict.put [] "error" (.str error.text) } :=
      { readable_fallback ("Unhandled exception: " ++ error.name) with }
    exact ⟨_, _, rfl, .escalating _ readable rfl⟩
  | answered tokens decision turn said noTool final =>
    rw [run_conclude, final]
    refine ⟨_, _, rfl, ?_⟩
    rw [length_firstPrompts steps (tokens, decision) said, Nat.one_mul] at counted
    unfold reply at said
    obtain ⟨parts, -, said⟩ := (bind_eq_ok _ _ _).mp said
    obtain ⟨answer, output, read⟩ := (bind_eq_ok _ _ _).mp said
    obtain ⟨readable, passed⟩ := readReply_ok inp answer tokens decision read
    exact {
      mode_eq := readable.mode_eq
      confidence := readable.confidence
      message := guarded_message _ readable.message
      noTool := fun acts => by
        rw [readable.tool acts] at noTool
        cases noTool
      last := fun acts => ⟨steps, answer, counted, output, passed acts⟩ }
  | exhausted turn limit wants final =>
    have readable : Readable inp.mode turn.decision := by
      rw [final]
      exact readable_fallback stepLimitReason
    have escalates : turn.decision.action = .escalate := by rw [final]; rfl
    rw [run_conclude]
    refine ⟨_, _, rfl, .escalating _ ?_ escalates⟩
    exact {
      mode_eq := readable.mode_eq
      confidence := readable.confidence
      message := guarded_message _ readable.message
      tool := fun acts => nomatch escalates.symm.trans acts }

/-- Whatever the model says and the tools do, a run returns a decision that is sound. -/
theorem agent_decision_sound (python : Python) (script : Script) (inp : AgentInput)
    (start : AgentState) :
    ∃ decision final, (agentRun python script inp).run start = (.ok decision, final) ∧
      SoundDecision python script inp start decision := by
  cases safe : (checkInput python inp.query).safe with
  | false =>
    rw [agentRun_blocked start safe]
    obtain ⟨decision, final, run, sound, -⟩ := @run_blocked_sound python script inp start
      (checkInput python inp.query) { start with call_count := 0 }
    exact ⟨decision, final, run, sound⟩
  | true =>
    obtain ⟨steps, -, -, ends⟩ := @agentRun_ends python script inp start safe
    exact ends.sound ends.decisionCalls_eq

variable (python script inp start) in
/-- The run returns after at most so many decision calls, and escalates where the last of them
still asks for a tool. -/
structure KeepsCeiling : Prop where
  few : decisionCalls python script inp start ≤ maxAgentSteps
  escalates : ∃ decision final, (agentRun python script inp).run start = (.ok decision, final) ∧
    ∀ step, decisionCalls python script inp start = step + 1 →
      (toolCallAt python script inp step).isSome → decision.action = .escalate

theorem agentRun_pending (start : AgentState) (step : Nat)
    (last : decisionCalls python script inp start = step + 1)
    (pending : (toolCallAt python script inp step).isSome) :
    ∃ decision final, (agentRun python script inp).run start = (.ok decision, final) ∧
      decision.action = .escalate := by
  -- A run whose last output asks for a tool has come to its limit.
  cases safe : (checkInput python inp.query).safe with
  | false =>
    obtain ⟨decision, final, run, -, asked⟩ := @run_blocked_sound python script inp start
      (checkInput python inp.query) { start with call_count := 0 }
    rw [decisionCalls, agentRun_blocked start safe, run, asked, Nat.sub_self] at last
    exact absurd last (by omega)
  | true =>
    obtain ⟨steps, -, -, ends⟩ := @agentRun_ends python script inp start safe
    obtain ⟨tokens, decision, said, wants⟩ := toolCallAt_some step pending
    have counted := ends.decisionCalls_eq
    rw [length_firstPrompts step (tokens, decision) said, last, Nat.one_mul] at counted
    obtain rfl : step = steps := by omega
    generalize (agentRun python script inp).run start = outcome at ends
    cases ends with
    | failed error fails =>
      rw [fails] at said
      cases said
    | answered tokens' decision' turn said' noTool final =>
      rw [said'] at said
      cases said
      rw [noTool] at wants
      cases wants
    | exhausted turn limit wants final =>
      rw [run_conclude]
      refine ⟨_, _, rfl, ?_⟩
      change turn.decision.action = .escalate
      rw [final]
      rfl

/-- The first call comes on top of one call for each of the tool steps, so that the model is
asked too often exactly where every output up to the limit asks for a tool. -/
theorem keeps_ceiling_iff (python : Python) (script : Script) (inp : AgentInput)
    (start : AgentState) :
    KeepsCeiling python script inp start ↔
      (checkInput python inp.query).safe = false ∨
        ∃ step < maxAgentSteps, toolCallAt python script inp step = none := by
  obtain ⟨decision, final, run⟩ := @agentRun_returns python inp script start
  have escalates : ∃ decision final, (agentRun python script inp).run start =
      (.ok decision, final) ∧ ∀ step, decisionCalls python script inp start = step + 1 →
        (toolCallAt python script inp step).isSome → decision.action = .escalate := by
    refine ⟨decision, final, run, fun step last pending => ?_⟩
    obtain ⟨decision', final', run', escalate⟩ := agentRun_pending start step last pending
    rw [run] at run'
    cases run'
    exact escalate
  have few : KeepsCeiling python script inp start ↔
      decisionCalls python script inp start ≤ maxAgentSteps :=
    ⟨KeepsCeiling.few, fun few => ⟨few, escalates⟩⟩
  rw [few]
  cases safe : (checkInput python inp.query).safe with
  | false =>
    obtain ⟨_, _, blocked, -, asked⟩ := @run_blocked_sound python script inp start
      (checkInput python inp.query) { start with call_count := 0 }
    rw [decisionCalls, agentRun_blocked start safe, blocked, asked, Nat.sub_self]
    exact iff_of_true (Nat.zero_le _) (.inl rfl)
  | true =>
    obtain ⟨steps, most, asked, ends⟩ := @agentRun_ends python script inp start safe
    rw [ends.decisionCalls_eq]
    simp only [Bool.true_eq_false, false_or]
    constructor
    · intro within
      by_contra every
      push Not at every
      have wanted (step : Nat) (early : step < maxAgentSteps) :
          (toolCallAt python script inp step).isSome :=
        Option.isSome_iff_ne_none.mpr (every step early)
      obtain ⟨tokens, decision, said, -⟩ := toolCallAt_some 0 (wanted 0 (by decide))
      rw [length_firstPrompts 0 (tokens, decision) said, Nat.one_mul] at within
      have all := ends.covers (maxAgentSteps - 1) (by decide) fun k below =>
        wanted k (by simp only [maxAgentSteps] at below ⊢; omega)
      simp only [maxAgentSteps] at within all
      omega
    · rintro ⟨step, early, none_wanted⟩
      have short : steps ≤ step := by
        by_contra longer
        have wanted := asked step (by omega)
        rw [none_wanted] at wanted
        cases wanted
      calc (firstPrompts python script inp start).length * (steps + 1)
          ≤ 1 * (steps + 1) := Nat.mul_le_mul_right _ length_firstPrompts_le
        _ ≤ maxAgentSteps := by omega

end Runs

/-- A model that always wants the ticket escalated is asked six times. -/
theorem escalations_exceed_ceiling :
    ¬KeepsCeiling (.reading escalationData) (.saying (List.replicate 6 escalation)) advice {} := by
  intro keeps
  have calls : decisionCalls (.reading escalationData)
      (Script.saying (List.replicate 6 escalation)) advice {} = 6 := by
    decide +kernel
  have few := keeps.few
  rw [calls] at few
  exact absurd few (by decide)

end HelpForge.Chatbot
