import HelpForge.Chatbot.Agent.Prompts
import Mathlib.Data.List.Infix

set_option autoImplicit false

namespace HelpForge.Chatbot

variable (python : Python)

def approxTokens (text : String) : Nat := max 1 (text.length / charsPerToken)

def historyLine (message : Dict Value) : Except PyError String := do
  let role ← messageText message "role" "unknown" "upper"
  let content ← messageText message "content" "" "strip"
  return python.upper role ++ ": " ++ stripped content

def AgentMode.historyTitle : AgentMode → String
  | .chat => "CONVERSATION HISTORY"
  | .automation => "RECENT CONVERSATION"
  | .augmentation => "CONVERSATION HISTORY"

def AgentMode.ragTitle : AgentMode → String
  | .chat => "KNOWLEDGE BASE CONTEXT"
  | .automation => "KNOWLEDGE BASE CONTEXT"
  | .augmentation => "RELEVANT KNOWLEDGE BASE ARTICLES"

def SectionIn (title body : String) (lines : List String) : Prop :=
  ∃ before after, lines = before ++ promptSection title [body] ++ after

def HasSection (prompt title body : String) : Prop :=
  ∃ lines, prompt = "\n".intercalate lines ∧ SectionIn title body lines

/-- The section has the line of the last message, or its end where the line alone is longer
than the budget. -/
def KeepsNewest (history : List (Dict Value)) (budget : Nat) (body : String) : Prop :=
  ∀ message, history.getLast? = some message → ∀ line, historyLine python message = .ok line →
    ∃ recent, recent <:+ line.toList ∧ recent <:+: body.toList ∧ recent ≠ [] ∧
      (line.length ≤ budget * charsPerToken → recent = line.toList)

/-- The text is short enough for the budget. -/
def Fits (text : String) (budget : Nat) : Prop := text.length ≤ budget * charsPerToken

instance (text : String) (budget : Nat) : Decidable (Fits text budget) :=
  inferInstanceAs (Decidable (_ ≤ _))

section Nat

variable (text : String) (budget : Nat)

theorem truncateToTokens_fits (fits : Fits text budget) :
    truncateToTokens text budget = text := if_pos fits

theorem truncateToTokens_length (long : ¬ Fits text budget) :
    (truncateToTokens text budget).length = budget * charsPerToken + 40 := by
  have notice : "\n...[context truncated for token budget]".length = 40 := by decide
  unfold Fits at long
  rw [truncateToTokens, if_neg long, String.length_append, notice, String.length_ofList,
    List.length_take, String.length_toList]
  omega

theorem approxTokens_truncate_iff (some_ : 0 < budget) :
    approxTokens (truncateToTokens text budget) ≤ budget ↔ Fits text budget := by
  by_cases fits : Fits text budget
  · refine iff_of_true ?_ fits
    rw [truncateToTokens_fits text budget fits]
    unfold Fits charsPerToken at fits
    unfold approxTokens charsPerToken
    omega
  · refine iff_of_false ?_ fits
    have length := truncateToTokens_length text budget fits
    unfold charsPerToken at length
    unfold approxTokens charsPerToken
    omega

end Nat

variable (history : List (Dict Value)) (max_messages : Nat) (text : String)

theorem formatHistory_lines (formatted : formatHistory python history max_messages = .ok text) :
    ∃ lines, (history.drop (history.length - max_messages)).mapM (historyLine python) = .ok lines ∧
      text = if lines.isEmpty then "(no conversation history)" else "\n".intercalate lines := by
  obtain ⟨lines, read, rest⟩ := (bind_eq_ok _ _ _).mp formatted
  exact ⟨lines, read, (Except.ok.inj rest).symm⟩

theorem historyLine_ne_empty (message : Dict Value) (line : String)
    (read : historyLine python message = .ok line) : line ≠ "" := by
  obtain ⟨role, _, read⟩ := (bind_eq_ok _ _ _).mp read
  obtain ⟨content, _, read⟩ := (bind_eq_ok _ _ _).mp read
  rw [← Except.ok.inj read]
  intro empty
  have chars := congrArg String.length empty
  simp at chars

theorem getLast_recent {α : Type} (items : List α) (count : Nat) (some_ : 0 < count) :
    (items.drop (items.length - count)).getLast? = items.getLast? := by
  cases items with
  | nil => simp
  | cons first rest =>
    have inside : (first :: rest).length - count < (first :: rest).length := by
      simp only [List.length_cons]
      omega
    rw [List.getLast?_drop, if_neg (by omega)]

theorem newest_suffix (some_ : 0 < max_messages) (text : String)
    (formatted : formatHistory python history max_messages = .ok text) (message : Dict Value)
    (last : history.getLast? = some message) (line : String)
    (read : historyLine python message = .ok line) : line.toList <:+ text.toList := by
  obtain ⟨lines, mapped, rfl⟩ := formatHistory_lines python history max_messages text formatted
  have recent := getLast_recent history max_messages some_
  obtain ⟨earlier, split⟩ := List.getLast?_eq_some_iff.mp (recent.trans last)
  rw [split] at mapped
  rw [List.mapM_append] at mapped
  obtain ⟨before, _, mapped⟩ := (bind_eq_ok _ _ _).mp mapped
  have single : [message].mapM (historyLine python) = .ok [line] :=
    (mapM_eq_ok _ _ _).mpr (.cons read .nil)
  rw [single] at mapped
  have joined : lines = before ++ [line] := (Except.ok.inj mapped).symm
  rw [joined]
  simp only [List.isEmpty_iff, List.append_eq_nil_iff, List.cons_ne_nil, and_false, if_false]
  by_cases alone : before = []
  · rw [alone, List.nil_append, String.intercalate_singleton]
  · rw [String.intercalate_append_of_ne_nil alone (by simp), String.intercalate_singleton,
      String.toList_append]
    exact List.suffix_append ..

theorem formatHistory_ne_empty (formatted : formatHistory python history max_messages = .ok text) :
    text ≠ "" := by
  obtain ⟨lines, mapped, rfl⟩ := formatHistory_lines python history max_messages text formatted
  cases lines with
  | nil => simp
  | cons line rest =>
    have each := (mapM_eq_ok _ _ _).mp mapped
    obtain ⟨message, tail, read, _, _⟩ := List.forall₂_cons_right_iff.mp each
    have full := historyLine_ne_empty python message line read
    simp only [List.isEmpty_cons, Bool.false_eq_true, if_false]
    cases rest with
    | nil => rwa [String.intercalate_singleton]
    | cons second others =>
      rw [String.intercalate_cons_cons]
      intro empty
      simp [String.append_eq_empty_iff, full] at empty

theorem truncateToTokens_ne_empty (budget : Nat) (full : text ≠ "") :
    truncateToTokens text budget ≠ "" := by
  unfold truncateToTokens
  dsimp only
  split_ifs
  · exact full
  · intro empty
    simp at empty

theorem sectionIn_last (title body : String) (before : List String) :
    SectionIn title body (before ++ promptSection title [body]) :=
  ⟨before, [], (List.append_nil _).symm⟩

theorem SectionIn.append {title body : String} {lines : List String}
    (inside : SectionIn title body lines) (more : List String) :
    SectionIn title body (lines ++ more) := by
  obtain ⟨before, after, rfl⟩ := inside
  exact ⟨before, after ++ more, List.append_assoc ..⟩

theorem system_prompt_sections (inp : AgentInput) (parts : PromptParts) (tools : String)
    (history : parts.history ≠ "") :
    HasSection (buildMessages python inp parts tools).system_prompt inp.mode.historyTitle
        parts.history ∧
      (parts.rag_context ≠ "" →
        HasSection (buildMessages python inp parts tools).system_prompt inp.mode.ragTitle
          parts.rag_context) := by
  have history_ : ∀ default, orElse parts.history default = parts.history :=
    fun _ => if_neg history
  have rag_ : parts.rag_context ≠ "" →
      ∀ default, orElse parts.rag_context default = parts.rag_context := fun full _ => if_neg full
  unfold buildMessages buildSystemPrompt
  dsimp only
  cases inp.mode with
  | chat =>
    unfold chatSystemTemplate
    refine ⟨⟨_, rfl, ?_⟩, fun full => ⟨_, rfl, ?_⟩⟩
    · rw [history_]
      exact (sectionIn_last ..).append _ |>.append _ |>.append _ |>.append _
    · rw [rag_ full]
      exact (sectionIn_last ..).append _ |>.append _ |>.append _ |>.append _ |>.append _
  | automation =>
    unfold automationSystemTemplate
    refine ⟨⟨_, rfl, ?_⟩, fun full => ⟨_, rfl, ?_⟩⟩
    · rw [history_]
      exact (sectionIn_last ..).append _ |>.append _ |>.append _ |>.append _
    · rw [rag_ full]
      exact (sectionIn_last ..).append _ |>.append _ |>.append _ |>.append _ |>.append _
        |>.append _
  | augmentation =>
    unfold augmentationSystemTemplate
    refine ⟨⟨_, rfl, ?_⟩, fun full => ⟨_, rfl, ?_⟩⟩
    · rw [history_]
      exact (sectionIn_last ..).append _ |>.append _ |>.append _ |>.append _ |>.append _
    · rw [rag_ full]
      exact (sectionIn_last ..).append _ |>.append _ |>.append _ |>.append _ |>.append _
        |>.append _

theorem promptParts_cut (inp : AgentInput) (ctx : AgentContext) (parts : PromptParts)
    (built : promptParts python inp ctx = .ok parts) :
    ∃ text, formatHistory python ctx.history inp.mode.historyMessages = .ok text ∧
      parts.history = truncateToTokens text inp.mode.historyTokenBudget ∧
      parts.rag_context = truncateToTokens ctx.rag_context_text inp.mode.ragTokenBudget := by
  obtain ⟨ticket, _, built⟩ := (bind_eq_ok _ _ _).mp built
  obtain ⟨text, formatted, built⟩ := (bind_eq_ok _ _ _).mp built
  obtain ⟨content, _, built⟩ := (bind_eq_ok _ _ _).mp built
  rw [← Except.ok.inj built]
  exact ⟨text, formatted, rfl, rfl⟩

/-- Every section keeps within its budget, and the history its newest message, exactly
where nothing is cut. -/
theorem newest_and_budget_iff (inp : AgentInput) (ctx : AgentContext) (parts : PromptParts)
    (built : promptParts python inp ctx = .ok parts) (tools : String) :
    (HasSection (buildMessages python inp parts tools).system_prompt inp.mode.historyTitle
        parts.history ∧
      (parts.rag_context ≠ "" →
        HasSection (buildMessages python inp parts tools).system_prompt inp.mode.ragTitle
          parts.rag_context)) ∧
      ((KeepsNewest python ctx.history inp.mode.historyTokenBudget parts.history ∧
          approxTokens parts.history ≤ inp.mode.historyTokenBudget ∧
          approxTokens parts.rag_context ≤ inp.mode.ragTokenBudget) ↔
        (∀ text, formatHistory python ctx.history inp.mode.historyMessages = .ok text →
            Fits text inp.mode.historyTokenBudget) ∧
          Fits ctx.rag_context_text inp.mode.ragTokenBudget) := by
  obtain ⟨text, formatted, history, rag⟩ := promptParts_cut python inp ctx parts built
  have full : parts.history ≠ "" := by
    rw [history]
    exact truncateToTokens_ne_empty _ _ (formatHistory_ne_empty python _ _ _ formatted)
  have budgets : 0 < inp.mode.historyTokenBudget ∧ 0 < inp.mode.ragTokenBudget ∧
      0 < inp.mode.historyMessages := by
    cases inp.mode <;> decide
  refine ⟨system_prompt_sections python inp parts tools full, ?_⟩
  have historyFits := approxTokens_truncate_iff text _ budgets.1
  have ragFits := approxTokens_truncate_iff ctx.rag_context_text _ budgets.2.1
  rw [history, rag, historyFits, ragFits]
  constructor
  · rintro ⟨_, fits, fits'⟩
    refine ⟨fun other formatted' => ?_, fits'⟩
    rw [formatted] at formatted'
    exact Except.ok.inj formatted' ▸ fits
  · rintro ⟨fits, fits'⟩
    refine ⟨?_, fits text formatted, fits'⟩
    rw [truncateToTokens_fits text _ (fits text formatted)]
    intro message last line read
    have suffix := newest_suffix python ctx.history _ budgets.2.2 text formatted message last line
      read
    have some_ := historyLine_ne_empty python message line read
    exact ⟨line.toList, List.suffix_refl _, suffix.isInfix, by simpa using some_, fun _ => rfl⟩

/-- A long message, and a short one after it. -/
def overlongChat (length : Nat) : AgentContext where
  rag_context_text := ""
  history :=
    [[("role", .str "user"), ("content", .str (String.ofList (List.replicate length 'a')))],
      [("role", .str "user"), ("content", .str "And when?")]]

def chatInput : AgentInput where
  mode := .chat
  org_id := "org_1"
  ticket_id := "t_1"
  query := "And when?"

theorem short_conversation_kept :
    ∃ parts, promptParts (Python.reading .none) chatInput (overlongChat 3) = .ok parts ∧
      KeepsNewest (Python.reading .none) (overlongChat 3).history 800 parts.history ∧
      approxTokens parts.history ≤ 800 ∧ approxTokens parts.rag_context ≤ 1800 := by
  refine ⟨_, rfl, ?_⟩
  refine (newest_and_budget_iff (Python.reading .none) chatInput (overlongChat 3) _ rfl
    "").2.mpr ⟨?_, by decide⟩
  intro text formatted
  rw [← Except.ok.inj formatted]
  decide +kernel

theorem historyLine_user (content : String) :
    historyLine (Python.reading .none) [("role", .str "user"), ("content", .str content)] =
      .ok ("USER: " ++ stripped content) := by
  have upper : (Python.reading .none).upper "user" ++ ": " = "USER: " := by decide +kernel
  rw [← upper]
  rfl

theorem overlongChat_text (length : Nat) (text : String)
    (formatted : formatHistory (Python.reading .none) (overlongChat length).history 10 =
      .ok text) :
    text.toList =
      "USER: ".toList ++ List.replicate length 'a' ++ "\nUSER: And when?".toList := by
  have solid : stripped (String.ofList (List.replicate length 'a')) =
      String.ofList (List.replicate length 'a') := by
    rw [stripped, String.toList_ofList, strip_eq_self]
    intro char member
    rw [List.eq_of_mem_replicate member]
    decide
  have first := historyLine_user (String.ofList (List.replicate length 'a'))
  have second := historyLine_user "And when?"
  have when_ : "USER: " ++ stripped "And when?" = "USER: And when?" := by decide +kernel
  rw [solid] at first
  rw [when_] at second
  obtain ⟨lines, mapped, rfl⟩ := formatHistory_lines _ _ _ _ formatted
  have lines_ := (mapM_eq_ok _ _ _).mpr (.cons first (.cons second .nil))
  cases (lines_.symm.trans mapped)
  have newline : "\n".toList ++ "USER: And when?".toList = "\nUSER: And when?".toList := by decide
  simp only [List.isEmpty_cons, Bool.false_eq_true, if_false, String.intercalate_cons_cons,
    String.intercalate_singleton, String.toList_append, String.toList_ofList, List.append_assoc,
    newline]

theorem overlongChat_cut (length : Nat) (long : 3200 ≤ length) (text : String)
    (formatted : formatHistory (Python.reading .none) (overlongChat length).history 10 =
      .ok text) :
    ¬ Fits text 800 ∧ '?' ∉ (truncateToTokens text 800).toList := by
  have chars := overlongChat_text length text formatted
  have size : text.length = length + 22 := by
    have ends : "USER: ".toList.length = 6 ∧ "\nUSER: And when?".toList.length = 16 := by decide
    rw [← String.length_toList, chars, List.length_append, List.length_append,
      List.length_replicate, ends.1, ends.2]
    omega
  have exceeds : ¬ text.length ≤ 800 * charsPerToken := by
    unfold charsPerToken
    omega
  refine ⟨exceeds, fun member => ?_⟩
  rw [truncateToTokens, if_neg exceeds, String.toList_append, String.toList_ofList, chars] at member
  rcases List.mem_append.mp member with cut | notice
  · have short : 800 * charsPerToken ≤ ("USER: ".toList ++ List.replicate length 'a').length := by
      rw [List.length_append, List.length_replicate]
      unfold charsPerToken
      omega
    rw [List.take_append_of_le_length short] at cut
    rcases List.mem_append.mp (List.mem_of_mem_take cut) with label | letter
    · exact absurd label (by decide)
    · exact absurd (List.eq_of_mem_replicate letter) (by decide)
  · exact absurd notice (by decide)

/-- The first 3200 characters leave nothing of the newest message, and the section is over
its budget. -/
theorem newest_message_cut :
    (¬ ∀ (inp : AgentInput) (ctx : AgentContext) (parts : PromptParts), inp.mode = .chat →
        promptParts (Python.reading .none) inp ctx = .ok parts →
        KeepsNewest (Python.reading .none) ctx.history inp.mode.historyTokenBudget
          parts.history) ∧
      ¬ ∀ (inp : AgentInput) (ctx : AgentContext) (parts : PromptParts), inp.mode = .chat →
        promptParts (Python.reading .none) inp ctx = .ok parts →
        approxTokens parts.history ≤ inp.mode.historyTokenBudget := by
  obtain ⟨parts, built⟩ : ∃ parts,
      promptParts (Python.reading .none) chatInput (overlongChat 3200) = .ok parts := ⟨_, rfl⟩
  obtain ⟨text, formatted, history, _⟩ := promptParts_cut _ _ _ _ built
  obtain ⟨exceeds, cut⟩ := overlongChat_cut 3200 (le_refl _) text formatted
  constructor
  · intro keeps
    obtain ⟨recent, _, within, _, whole⟩ :=
      keeps chatInput (overlongChat 3200) parts rfl built _ rfl "USER: And when?"
        (by decide +kernel)
    rw [whole (by decide), history] at within
    exact cut (within.subset (by decide))
  · intro within
    have spent := within chatInput (overlongChat 3200) parts rfl built
    rw [history] at spent
    exact exceeds ((approxTokens_truncate_iff text 800 (by decide)).mp spent)

end HelpForge.Chatbot
