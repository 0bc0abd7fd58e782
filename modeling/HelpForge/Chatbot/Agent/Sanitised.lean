import HelpForge.Chatbot.Agent.Outcome

set_option autoImplicit false

namespace HelpForge.Chatbot

open Lib

def AgentInput.sanitised (python : Python) (inp : AgentInput) : AgentInput :=
  { inp with query := (checkInput python inp.query).safe_value }

/-- There is nothing in the query that the guard would take out of it. -/
structure Sanitary (query : String) : Prop where
  printable : ∀ char ∈ query.toList, isControl char = false
  trimmed : strip query.toList = query.toList
  short : query.length ≤ maxInputChars

theorem strip_within (text : List Char) : strip text <:+: text := by
  have front := (List.dropWhile_suffix isSpace (l := text)).isInfix
  have back := (List.dropWhile_suffix isSpace (l := (text.dropWhile isSpace).reverse)).isInfix
  have turned := List.reverse_infix.mpr back
  rw [List.reverse_reverse] at turned
  exact turned.trans front

section Guard

variable {python : Python} {query : String}

theorem checkInput_safe (safe : (checkInput python query).safe = true) :
    (checkInput python query).safe_value = String.ofList
      ((strip (query.toList.filter fun char => !isControl char)).take maxInputChars) := by
  unfold checkInput at safe ⊢
  dsimp only at safe ⊢
  split_ifs at safe ⊢ with empty injected
  rfl

theorem safe_value_bounded (safe : (checkInput python query).safe = true) :
    (checkInput python query).safe_value.length ≤ maxInputChars ∧
      ∀ char ∈ (checkInput python query).safe_value.toList, isControl char = false := by
  rw [checkInput_safe safe, String.length_ofList, String.toList_ofList]
  refine ⟨List.length_take_le _ _, fun char member => ?_⟩
  have kept := (strip_within _).subset (List.mem_of_mem_take member)
  simpa using (List.mem_filter.mp kept).2

theorem safe_value_eq_iff (safe : (checkInput python query).safe = true) :
    (checkInput python query).safe_value = query ↔ Sanitary query := by
  constructor
  · intro same
    obtain ⟨short, printable⟩ := safe_value_bounded safe
    rw [same] at short printable
    refine ⟨printable, ?_, short⟩
    have cut := congrArg String.toList ((checkInput_safe safe).symm.trans same)
    rw [String.toList_ofList, List.filter_eq_self.mpr (by simpa using printable)] at cut
    refine (strip_within query.toList).eq_of_length_le ?_
    calc query.toList.length = ((strip query.toList).take maxInputChars).length := by rw [cut]
      _ ≤ (strip query.toList).length := List.length_take_le' _ _
  · intro sanitary
    rw [checkInput_safe safe, List.filter_eq_self.mpr (by simpa using sanitary.printable),
      sanitary.trimmed, List.take_of_length_le sanitary.short, String.ofList_toList]

end Guard

section Prompts

variable (python : Python) (script : Script) (inp : AgentInput) (start : AgentState)

/-- The prompt of the n-th decision call of the run, made for the query of `asks`: at most one. -/
def promptsAt (asks : AgentInput) : Nat → List Prompt
  | 0 => firsts
  | step + 1 =>
    let wanted := (toolCallAt python script inp step).getD ("", [])
    let outcome := (toolStep python script inp wanted.1 wanted.2).run
      (stateAfter python script inp start step)
    firsts.map fun first =>
      buildFollowupMessages python asks first wanted.1 (outcome.1.toOption.getD []) (step + 1)
where
  firsts : List Prompt :=
    (promptParts python asks
      (buildContext script inp (checkInput python inp.query).safe_value)).toOption.toList.map
        fun parts => buildMessages python asks parts (availableToolDescriptions start)

def AsksFor (asks : AgentInput) : Prop :=
  ∃ calls, ((agentRun python script inp).run start).2.asked =
    start.asked ++ (List.range calls).flatMap (promptsAt python script inp start asks)

/-- The model sees the query as the guard leaves it, which is short and has no control
characters in it. -/
structure AsksSanitised : Prop where
  prompts : AsksFor python script inp start (inp.sanitised python)
  bounded : (checkInput python inp.query).safe = true →
    (checkInput python inp.query).safe_value.length ≤ maxInputChars ∧
      ∀ char ∈ (checkInput python inp.query).safe_value.toList, isControl char = false

variable {python script inp start}

theorem prompts_stateAfter (steps : Nat) :
    (stateAfter python script inp start steps).asked =
      start.asked ++ (List.range (steps + 1)).flatMap (promptsAt python script inp start inp) := by
  induction steps with
  | zero => simp [stateAfter, promptsAt, promptsAt.firsts, firstPrompts, firstParts]
  | succ steps ih =>
    rw [List.range_succ, List.flatMap_append, ← List.append_assoc, ← ih]
    simp only [stateAfter, toolStep_asked, promptsAt, promptsAt.firsts, firstPrompts, firstParts,
      List.flatMap_cons, List.flatMap_nil, List.append_nil]

variable (asks : AgentInput)

theorem firstContent_query (query : String) (content : String)
    (one : firstContent python asks = .ok content)
    (other : firstContent python { asks with query } = .ok content) : asks.query = query := by
  unfold firstContent at one other
  cases mode : asks.mode with
  | chat =>
    simp only [mode, Except.ok.injEq] at one other
    rw [← other] at one
    simpa [String.append_left_inj, String.append_right_inj] using one
  | automation =>
    simp only [mode, eventDescription, Except.ok.injEq] at one other
    rw [← other] at one
    simpa [String.append_left_inj, String.append_right_inj] using one
  | augmentation =>
    simp only [mode] at one other
    generalize (asks.extra.lookup "agent_id").getD (.str "") = agent_id at one other
    have told (agent : String) (one : (.ok agent >>= fun agent => pure ("Support agent" ++ agent ++
          " asks: " ++ asks.query ++ "\n\n" ++
          "Provide a specific, actionable suggestion. Respond ONLY with valid JSON.") :
          Except PyError String) = .ok content)
        (other : (.ok agent >>= fun agent => pure ("Support agent" ++ agent ++
          " asks: " ++ query ++ "\n\n" ++
          "Provide a specific, actionable suggestion. Respond ONLY with valid JSON.") :
          Except PyError String) = .ok content) : asks.query = query := by
      simp only [bind, Except.bind, pure, Except.pure, Except.ok.injEq] at one other
      rw [← other] at one
      simpa [String.append_left_inj, String.append_right_inj] using one
    cases agent_id with
    | str agent => exact told _ one other
    | _ =>
      dsimp only at one other
      split_ifs at one other with given
      · cases one
      · exact told _ one other

theorem promptParts_content (ctx : AgentContext) (parts : PromptParts)
    (built : promptParts python asks ctx = .ok parts) :
    firstContent python asks = .ok parts.content := by
  unfold promptParts at built
  obtain ⟨_, -, built⟩ := (bind_eq_ok _ _ _).mp built
  obtain ⟨_, -, built⟩ := (bind_eq_ok _ _ _).mp built
  obtain ⟨content, made, built⟩ := (bind_eq_ok _ _ _).mp built
  cases built
  exact made

theorem asked_first (safe : (checkInput python inp.query).safe = true) {parts : PromptParts}
    (built : firstParts python script inp = .ok parts) :
    ∃ later, ((agentRun python script inp).run start).2.asked =
      start.asked ++ buildMessages python inp parts (availableToolDescriptions start) :: later := by
  obtain ⟨steps, -, -, ends⟩ := @agentRun_ends python script inp start safe
  have made : promptParts python inp
      (buildContext script.surroundings inp (checkInput python inp.query).safe_value) =
        .ok parts := built
  rw [ends.asked, prompts_stateAfter, List.range_succ_eq_map]
  simp [promptsAt, promptsAt.firsts, made, Except.toOption]

theorem promptsAt_unbuilt {asks : AgentInput} {error : PyError} (calls : Nat)
    (failed : promptParts python asks
      (buildContext script inp (checkInput python inp.query).safe_value) = .error error) :
    (List.range calls).flatMap (promptsAt python script inp start asks) = [] := by
  rw [List.flatMap_eq_nil_iff]
  intro step _
  cases step <;> simp [promptsAt, promptsAt.firsts, failed, Except.toOption]

theorem head_promptsAt {asks : AgentInput} {first : Prompt} {later : List Prompt} (calls : Nat)
    (some_asked : (List.range calls).flatMap (promptsAt python script inp start asks) =
      first :: later) :
    ∃ parts, promptParts python asks
        (buildContext script inp (checkInput python inp.query).safe_value) = .ok parts ∧
      first = buildMessages python asks parts (availableToolDescriptions start) := by
  cases built : promptParts python asks
    (buildContext script inp (checkInput python inp.query).safe_value) with
  | error error =>
    rw [promptsAt_unbuilt calls built] at some_asked
    cases some_asked
  | ok parts =>
    refine ⟨parts, rfl, ?_⟩
    cases calls with
    | zero => cases some_asked
    | succ calls =>
      rw [List.range_succ_eq_map] at some_asked
      simp only [promptsAt, promptsAt.firsts, built, Except.toOption, List.flatMap_cons,
        Option.toList_some, List.map_cons, List.cons_append] at some_asked
      exact (List.cons.inj some_asked).1.symm

theorem AsksFor.sanitary (asks : AsksFor python script inp start (inp.sanitised python))
    (safe : (checkInput python inp.query).safe = true) {parts : PromptParts}
    (built : firstParts python script inp = .ok parts) : Sanitary inp.query := by
  -- The first prompt gives away whether the query has been cleaned.
  obtain ⟨calls, asks⟩ := asks
  obtain ⟨later, first⟩ := @asked_first python script inp start safe parts built
  rw [first, List.append_cancel_left_eq] at asks
  obtain ⟨parts', built', same⟩ := head_promptsAt calls asks.symm
  have raw := promptParts_content _ _ _ built
  have clean := promptParts_content _ _ _ built'
  have told : parts.content = parts'.content := congrArg Prompt.content same
  rw [← told] at clean
  have equal := firstContent_query inp (checkInput python inp.query).safe_value _ raw clean
  exact (safe_value_eq_iff safe).mp equal.symm

/-- The model sees the raw query unless there is nothing to clean in it, or it is asked nothing
at all. -/
theorem asks_sanitised_iff (python : Python) (script : Script) (inp : AgentInput)
    (start : AgentState) :
    AsksSanitised python script inp start ↔
      (checkInput python inp.query).safe = false ∨
        (∃ error, firstParts python script inp = .error error) ∨ Sanitary inp.query := by
  have bounded := @safe_value_bounded python inp.query
  have prompts : AsksSanitised python script inp start ↔
      AsksFor python script inp start (inp.sanitised python) :=
    ⟨AsksSanitised.prompts, fun prompts => ⟨prompts, bounded⟩⟩
  rw [prompts]
  cases safe : (checkInput python inp.query).safe with
  | false =>
    obtain ⟨_, _, blocked, -, asked⟩ := @run_blocked_sound python script inp start
      (checkInput python inp.query) { start with call_count := 0 }
    refine iff_of_true ⟨0, ?_⟩ (.inl rfl)
    rw [agentRun_blocked start safe, blocked, asked]
    simp
  | true =>
    obtain ⟨steps, -, -, ends⟩ := @agentRun_ends python script inp start safe
    have asked := ends.asked
    rw [prompts_stateAfter] at asked
    simp only [Bool.true_eq_false, false_or]
    cases built : firstParts python script inp with
    | error error =>
      refine iff_of_true ⟨0, ?_⟩ (.inl ⟨error, rfl⟩)
      rw [asked, promptsAt_unbuilt (steps + 1) built]
      rfl
    | ok parts =>
      simp only [reduceCtorEq, exists_false, false_or]
      refine ⟨fun asks => asks.sanitary safe built, fun sanitary => ?_⟩
      have itself : inp.sanitised python = inp := by
        rw [AgentInput.sanitised, (safe_value_eq_iff safe).mpr sanitary]
      exact ⟨steps + 1, itself.symm ▸ asked⟩

end Prompts

/-- A bell is rung in the prompt. -/
theorem control_character_asked :
    ¬AsksSanitised (.reading suggestionData) (.saying [suggestion])
      { advice with query := "What can I offer?\x07" } {} := by
  intro asks
  have sanitary := asks.prompts.sanitary (by decide +kernel) rfl
  have quiet := sanitary.printable '\x07' (by decide)
  exact absurd quiet (by decide)

end HelpForge.Chatbot
