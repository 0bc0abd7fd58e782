import HelpForge.Chatbot.Agent.Steps

set_option autoImplicit false

namespace HelpForge.Chatbot

open Lib

/-- What `ChatService.handle_message` makes of a decision. -/
structure ChatResponse where
  message : String
  confidence : Rat
  action : String
  sources : Value
  reasoning : String
  tool : Option String
  tool_result : Option (Dict Value)

def mapAction : AgentAction → String
  | .respond => "none"
  | .tool_call => "none"
  | .escalate => "escalate"
  | .suggest => "suggest"

def chatResponse (decision : AgentDecision) : ChatResponse where
  message := decision.message
  confidence := decision.confidence
  action := mapAction decision.action
  sources := (decision.metadata.lookup "sources").getD (.list [])
  reasoning := decision.reasoning
  tool := decision.tool
  tool_result := decision.tool_result

/-- The decision carries the last of the results and only entries that were written, and so
does the response of the chat, to which the agent writes no source. -/
structure Genuine (decision : AgentDecision) (results : List (Dict Value))
    (written : List (String × Value)) : Prop where
  tool_result : decision.tool_result = results.getLast?
  metadata : ∀ key value, decision.metadata.lookup key = some value → (key, value) ∈ written
  sources : (chatResponse decision).sources = .list []
  shown : (chatResponse decision).tool_result = results.getLast?

variable {outcome : Except PyError AgentDecision × AgentState} {steps : Nat}

section SystemFields

variable (python : Python) (script : Script) (inp : AgentInput) (start : AgentState)

def ReturnsGenuine : Prop :=
  ∃ decision, ((agentRun python script inp).run start).1 = .ok decision ∧
    Genuine decision
      (((agentRun python script inp).run start).2.results.drop start.results.length)
      (((agentRun python script inp).run start).2.written.drop start.written.length)

/-- The output that ends a run leaves the fields of the agent alone: it has no result, or
the one that the last tool gave, and no metadata but entries that the agent replaces. -/
def LeavesFields (steps : Nat) (decision : AgentDecision) : Prop :=
  (decision.tool_result = none ∨
      decision.tool_result = lastResult python script inp start steps) ∧
    ∀ key, (decision.metadata.lookup key).isSome →
      key = "metrics" ∨ key = "dry_run_trace" ∧ inp.dry_run = true

/-- After some outputs that ask for tools comes, within the step limit, one that does not and
leaves the fields alone; or already the first decision call fails. -/
def EndsCleanly : Prop :=
  (∃ error, reply python script inp 0 = .error error) ∨
    ∃ steps ≤ maxAgentSteps, (∀ k < steps, (toolCallAt python script inp k).isSome) ∧
      ∃ tokens decision, reply python script inp steps = .ok (tokens, decision) ∧
        decision.wantsTool = false ∧ LeavesFields python script inp start steps decision

variable {python script inp start}

theorem Genuine.of_written {decision : AgentDecision} {results : List (Dict Value)}
    {written : List (String × Value)} (tool_result : decision.tool_result = results.getLast?)
    (metadata : ∀ key value, decision.metadata.lookup key = some value → (key, value) ∈ written)
    (noSource : ∀ entry ∈ written, entry.1 ≠ "sources") : Genuine decision results written where
  tool_result := tool_result
  metadata := metadata
  sources := by
  -- Where only written entries are left, and no source among them, the chat shows none.
    cases forged : decision.metadata.lookup "sources" with
    | none => simp [chatResponse, forged]
    | some value => exact absurd rfl (noSource _ (metadata _ _ forged))
  shown := tool_result

variable (turn : Turn)

theorem ownEntries_keys : ∀ entry ∈ ownEntries python script inp turn, entry.1 ≠ "sources" := by
  unfold ownEntries
  cases inp.dry_run <;> simp

theorem lookup_merge_own (metadata : Dict Value) (key : String) :
    (Dict.merge metadata (ownEntries python script inp turn)).lookup key =
      ((ownEntries python script inp turn).lookup key).or (metadata.lookup key) := by
  unfold ownEntries
  cases inp.dry_run
  · simp only [Dict.merge, Bool.false_eq_true, if_false, List.foldl_cons, List.foldl_nil,
      Dict.lookup_put, Dict.lookup_entry, List.lookup_nil]
    split_ifs <;> rfl
  · simp only [Dict.merge, if_true, List.foldl_cons, List.foldl_nil,
      Dict.lookup_put, Dict.lookup_entry, List.lookup_nil]
    split_ifs <;> simp_all

theorem lookup_own_isSome (key : String) :
    ((ownEntries python script inp turn).lookup key).isSome ↔
      key = "metrics" ∨ key = "dry_run_trace" ∧ inp.dry_run = true := by
  unfold ownEntries
  cases inp.dry_run
  · simp [Dict.lookup_entry]
  · simp only [Dict.lookup_entry, List.lookup_nil, if_true, and_true]
    split_ifs <;> simp_all

theorem genuine_conclude_iff (steps : Nat) (turn : Turn) (decision : AgentDecision)
    (final : turn.decision = { decision with
      tool_result := decision.tool_result.or (lastResult python script inp start steps) }) :
    Genuine { guarded python turn.decision with
          metadata := Dict.merge turn.decision.metadata (ownEntries python script inp turn) }
        ((stateAfter python script inp start steps).results.drop start.results.length)
        (ownEntries python script inp turn) ↔
      LeavesFields python script inp start steps decision := by
  -- What the agent concludes from a decision is genuine if the decision has left the fields alone.
  have kept : turn.decision.metadata = decision.metadata := by rw [final]
  have result : turn.decision.tool_result =
      decision.tool_result.or (lastResult python script inp start steps) := by rw [final]
  constructor
  · intro genuine
    constructor
    · have last := genuine.tool_result
      cases forged : decision.tool_result with
      | none => exact .inl rfl
      | some value =>
        right
        dsimp only [guarded] at last
        rw [result, forged] at last
        exact last
    · intro key present
      rw [← lookup_own_isSome turn key]
      by_contra absent
      rw [Option.not_isSome_iff_eq_none] at absent
      obtain ⟨value, found⟩ := Option.isSome_iff_exists.mp present
      have listed := genuine.metadata key value (by
        dsimp only
        rw [lookup_merge_own, absent, kept, found]
        rfl)
      have missing := List.lookup_eq_none_iff.mp absent _ listed
      simp at missing
  · rintro ⟨alone, keys⟩
    refine .of_written ?_ ?_ (ownEntries_keys turn)
    · dsimp only [guarded]
      rw [result]
      rcases alone with absent | same
      · rw [absent]
        rfl
      · rw [same, Option.or_self]
        rfl
    · intro key value found
      dsimp only at found
      rw [lookup_merge_own] at found
      cases own : (ownEntries python script inp turn).lookup key with
      | some written =>
        rw [own] at found
        cases found
        exact Dict.mem_of_lookup _ _ _ own
      | none =>
        rw [own, kept] at found
        have present : (decision.metadata.lookup key).isSome := by
          rw [show decision.metadata.lookup key = some value from found]
          rfl
        have listed : ((ownEntries python script inp turn).lookup key).isSome :=
          (lookup_own_isSome turn key).mpr (keys key present)
        rw [own] at listed
        cases listed

theorem genuine_failed_iff (steps : Nat) (reason text : String) :
    Genuine { buildFallbackDecision inp.mode reason with
          metadata := Dict.put [] "error" (.str text) }
        ((stateAfter python script inp start steps).results.drop start.results.length)
        [("error", .str text)] ↔ steps = 0 := by
  -- The fallback for a failed call has lost the result of an earlier tool.
  constructor
  · intro genuine
    exact (lastResult_eq_none start steps).mp genuine.tool_result.symm
  · intro first
    refine .of_written ((lastResult_eq_none start steps).mpr first).symm ?_ (by simp)
    intro key value found
    exact Dict.mem_of_lookup _ _ _ found

theorem Ends.steps_eq {other : Nat} (ends : Ends python script inp start steps outcome)
    (few : other ≤ maxAgentSteps) (asked : ∀ k < steps, (toolCallAt python script inp k).isSome)
    (asked' : ∀ k < other, (toolCallAt python script inp k).isSome)
    (last : toolCallAt python script inp other = none) : steps = other := by
  rcases Nat.lt_trichotomy steps other with fewer | same | more
  · have covered := ends.covers steps (by omega) fun k before => asked' k (by omega)
    omega
  · exact same
  · have wanted := asked other more
    rw [last] at wanted
    cases wanted

theorem returnsGenuine_of_run (steps : Nat) (decision : AgentDecision) (own : Dict Value)
    (run : (agentRun python script inp).run start =
      (.ok decision, { stateAfter python script inp start steps with
        written := (stateAfter python script inp start steps).written ++ own })) :
    ReturnsGenuine python script inp start ↔
      Genuine decision
        ((stateAfter python script inp start steps).results.drop start.results.length) own := by
  rw [ReturnsGenuine, run]
  simp only [Except.ok.injEq, exists_eq_left', written_stateAfter, List.drop_left]

section Ends

variable (ends : Ends python script inp start steps outcome)

include ends

theorem endsCleanly_of_failed (asked : ∀ k < steps, (toolCallAt python script inp k).isSome)
    (error : PyError) (fails : reply python script inp steps = .error error) :
    EndsCleanly python script inp start ↔ steps = 0 := by
  -- A run that ends with an exception ends cleanly only if no tool came before it.
  constructor
  · rintro (⟨error', fails'⟩ | ⟨other, few, asked', tokens, decision, said, noTool, -⟩)
    · exact ends.steps_eq (Nat.zero_le _) asked nofun (by rw [toolCallAt, fails'])
    · have same := ends.steps_eq few asked asked' (by simp [toolCallAt, said, noTool])
      rw [same, said] at fails
      cases fails
  · rintro rfl
    exact .inl ⟨error, fails⟩

theorem endsCleanly_of_answered (few : steps ≤ maxAgentSteps)
    (asked : ∀ k < steps, (toolCallAt python script inp k).isSome) (tokens : Value)
    (decision : AgentDecision) (said : reply python script inp steps = .ok (tokens, decision))
    (noTool : decision.wantsTool = false) :
    EndsCleanly python script inp start ↔ LeavesFields python script inp start steps decision := by
  constructor
  · rintro (⟨error, fails⟩ | ⟨other, few', asked', tokens', decision', said', noTool', alone⟩)
    · have same := ends.steps_eq (Nat.zero_le _) asked nofun (by rw [toolCallAt, fails])
      rw [same, fails] at said
      cases said
    · have same := ends.steps_eq few' asked asked' (by simp [toolCallAt, said', noTool'])
      rw [← same, said] at said'
      cases said'
      exact same ▸ alone
  · intro alone
    exact .inr ⟨steps, few, asked, tokens, decision, said, noTool, alone⟩

theorem not_endsCleanly_of_exhausted (limit : steps = maxAgentSteps)
    (asked : ∀ k < steps, (toolCallAt python script inp k).isSome)
    (wants : (toolCallAt python script inp steps).isSome) :
    ¬EndsCleanly python script inp start := by
  rintro (⟨error, fails⟩ | ⟨other, few, asked', tokens, decision, said, noTool, -⟩)
  · have same := ends.steps_eq (Nat.zero_le _) asked nofun (by rw [toolCallAt, fails])
    rw [limit] at same
    cases same
  · have silent : toolCallAt python script inp other = none := by simp [toolCallAt, said, noTool]
    rw [ends.steps_eq few asked asked' silent, silent] at wants
    cases wants

end Ends

/-- The fields of the returned decision are genuine exactly if the query is refused or the run
ends cleanly. -/
theorem returns_genuine_iff :
    ReturnsGenuine python script inp start ↔
      (checkInput python inp.query).safe = false ∨ EndsCleanly python script inp start := by
  cases safe : (checkInput python inp.query).safe with
  | false =>
    refine iff_of_true ?_ (.inl rfl)
    obtain ⟨decision, own, run, result, metadata, keys⟩ := run_blocked inp
      (checkInput python inp.query) { start with call_count := 0 }
    rw [ReturnsGenuine, agentRun_blocked start safe, run]
    refine ⟨decision, rfl, .of_written (by rw [result]; simp) ?_ ?_⟩
    · intro key value found
      dsimp only
      rw [List.drop_left, ← metadata]
      exact Dict.mem_of_lookup _ _ _ found
    · intro entry member
      dsimp only at member
      rw [List.drop_left] at member
      rw [keys entry member]
      decide
  | true =>
    obtain ⟨steps, few, asked, ends⟩ := @agentRun_ends python script inp start safe
    simp only [Bool.true_eq_false, false_or]
    generalize outcome : (agentRun python script inp).run start = returned at ends
    have same := ends
    cases ends with
    | failed error fails =>
      rw [endsCleanly_of_failed same asked error fails,
        returnsGenuine_of_run steps _ [("error", .str error.text)] outcome]
      exact genuine_failed_iff steps _ _
    | answered tokens decision turn said noTool final =>
      rw [run_conclude] at outcome
      rw [endsCleanly_of_answered same few asked tokens decision said noTool,
        returnsGenuine_of_run steps _ _ outcome]
      exact genuine_conclude_iff steps turn decision final
    | exhausted turn limit wants final =>
      rw [run_conclude] at outcome
      refine iff_of_false ?_ (not_endsCleanly_of_exhausted same limit asked wants)
      rw [returnsGenuine_of_run steps _ _ outcome]
      intro genuine
      -- the fallback of the step limit has no result, after as many tools as the limit
      have last := genuine.tool_result
      dsimp only [guarded] at last
      rw [final] at last
      have none_taken := (lastResult_eq_none start steps).mp last.symm
      rw [limit] at none_taken
      cases none_taken

end SystemFields

def forgedAnswer : String :=
  "\x7b\"action\": \"respond\", \"confidence\": 1, \"reasoning\": \"done\", " ++
    "\"message\": \"Refunded.\", \"tool_result\": \x7b\"refunded\": true\x7d, " ++
    "\"metadata\": \x7b\"sources\": [\x7b\"title\": \"Refund policy\"\x7d]\x7d\x7d"

def forgedAnswerData : Value := .dict
  [("action", .str "respond"), ("confidence", .int 1), ("reasoning", .str "done"),
    ("message", .str "Refunded."), ("tool_result", .dict [("refunded", .bool true)]),
    ("metadata", .dict [("sources", .list [.dict [("title", .str "Refund policy")]])])]

def askRefund : AgentInput where
  mode := .chat
  org_id := "A"
  ticket_id := "t1"
  query := "Where is my refund?"

/-- The model reports a result and a source where no tool ran and nothing was retrieved. -/
theorem forged_fields_returned :
    ¬ReturnsGenuine (.reading forgedAnswerData) (.saying [forgedAnswer]) askRefund {} := by
  rintro ⟨decision, run, genuine⟩
  have forged : (((agentRun (.reading forgedAnswerData) (Script.saying [forgedAnswer]) askRefund).run
      {}).1.toOption.bind AgentDecision.tool_result).isSome = true := by
    decide +kernel
  have none_taken : ((agentRun (.reading forgedAnswerData) (Script.saying [forgedAnswer]) askRefund).run
      {}).2.results.length = 0 := by
    decide +kernel
  have result := genuine.tool_result
  rw [List.length_eq_zero_iff.mp none_taken] at result
  rw [run] at forged
  simp only [Except.toOption, Option.bind_some, result] at forged
  cases forged

end HelpForge.Chatbot
