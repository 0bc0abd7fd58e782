import HelpForge.Chatbot.Agent.Metrics
import HelpForge.Lib.Separated
import Mathlib.Algebra.Ring.Int.Defs

set_option autoImplicit false

namespace HelpForge.Chatbot

open Lib

structure TraceStep where
  step : Nat := 0
  step_type : String
  latency_ms : Rat := 0
  tokens_total : Int := 0
  action : Option String := none
  confidence : Option Rat := none
  tool : Option String := none
  tool_success : Option Bool := none
  detail : Option String := none

structure TurnFacts where
  org_id : String
  ticket_id : String
  mode : String
  final_action : String
  final_confidence : Rat
  conv_intent : Option String := none
  conv_stage : Option String := none
  conv_severity : Option String := none
  escalated_pre_agent : Bool := false
  error : Option String := none

structure AgentTrace extends TurnFacts where
  steps : List TraceStep := []
  total_llm_calls : Nat := 0
  total_tool_calls : Nat := 0
  tokens_total : Int := 0
  guard_blocked : Bool := false

def toolKey (name : String) (agent_step : Nat) : String :=
  "tool_" ++ name ++ "_" ++ toString agent_step

def llmKey (agent_step : Nat) : String := "llm_step_" ++ toString agent_step

def startsTool (key : String) : Bool := "tool_".toList.isPrefixOf key.toList

/-- `_find_tool_key`. -/
def findToolKey (keys : List String) (agent_step : Nat) : Option String :=
  keys.find? fun key => startsTool key && endsWith agent_step key
where
  endsWith (agent_step : Nat) (key : String) : Bool :=
    ("_" ++ toString agent_step).toList.isSuffixOf key.toList

/-- `_parse_tool_name`. -/
def parseToolName (key : String) : String :=
  let without_prefix := key.toList.drop 5
  match splitLast '_' without_prefix with
  | some (name, _) => String.ofList name
  | none => String.ofList without_prefix

/-- What `_compute_cost` makes of the tokens is left out, but for its exceptions. -/
def computeCost : Value → Except PyError Unit
  | .bool _ | .float _ => .ok ()
  | .int tokens_total =>
    if floatLimit ≤ tokens_total.natAbs then
      .error ⟨"OverflowError", "int too large to convert to float"⟩
    else .ok ()
  | .nonFinite name =>
    if name = "NaN" then .error ⟨"ValueError", "cannot convert float NaN to integer"⟩
    else .error ⟨"OverflowError", "cannot convert float infinity to integer"⟩
  | .str _ | .list _ =>
    .error ⟨"TypeError", "can't multiply sequence by non-int of type 'float'"⟩
  | tokens_total => .error ⟨"TypeError",
      "unsupported operand type(s) for *: '" ++ tokens_total.typeName ++ "' and 'float'"⟩

section Tracer

variable (python : Python)

/-- The tokens of a step, whose cost is computed before they become a field of type `int`. -/
def readTokens (tokens : Value) : Except PyError Int := do
  computeCost tokens
  match python.laxInt tokens with
  | some tokens_total => .ok tokens_total
  | none =>
    .error ⟨"ValidationError", python.validationText "TraceStep" [("tokens_total", tokens)]⟩

def appendStep (steps : List TraceStep) (added : TraceStep) : List TraceStep :=
  -- `step_num` is the number of the steps so far.
  steps ++ [{ added with step := steps.length }]

def timingsOf (metrics : Dict Value) : Dict Value :=
  ((metrics.lookup "timings_ms").bind Value.asDict).getD []

def timing (timings : Dict Value) (key : String) : Rat :=
  match timings.lookup key with
  | some (.float latency_ms) => latency_ms
  | _ => 0

def agentSteps (metrics : Dict Value) : Nat :=
  match metrics.lookup "agent_steps" with
  | some (.int agent_steps) => agent_steps.toNat
  | _ => 0

def guardStep (timings : Dict Value) (key detail : String) (steps : List TraceStep) :
    List TraceStep :=
  if (timings.lookup key).isSome then
    appendStep steps
      { step_type := "guard", latency_ms := timing timings key, detail := some detail }
  else steps

def retrievalStep (metrics : Dict Value) (steps : List TraceStep) : List TraceStep :=
  let timings := timingsOf metrics
  let retrieval_ms :=
    if timing timings "context_build" ≠ 0 then timing timings "context_build"
    else timing timings "retrieval"
  let memory_ms := timing timings "memory_read"
  let rag_docs := (metrics.lookup "rag_docs").getD (.int 0)
  if retrieval_ms ≠ 0 ∨ memory_ms ≠ 0 then
    appendStep steps
      { step_type := "retrieval", latency_ms := retrieval_ms + memory_ms
        detail := some ("rag_docs=" ++ python.str rag_docs) }
  else steps

def llmStep (tokens : Value) (step : TraceStep) (steps : List TraceStep) :
    Except PyError (List TraceStep) := do
  let tokens_total ← readTokens python tokens
  return appendStep steps { step with tokens_total }

def toolCallStep (timings : Dict Value) (agent_step : Nat) (steps : List TraceStep) :
    List TraceStep :=
  match findToolKey (timings.map Prod.fst) agent_step with
  | some tool_key =>
    appendStep steps
      { step_type := "tool_call", latency_ms := timing timings tool_key
        tool := some (parseToolName tool_key), tool_success := some true }
  | none => steps

def toolAndFollowup (metrics : Dict Value) (steps : List TraceStep) (agent_step : Nat) :
    Except PyError (List TraceStep) :=
  -- The pass of the loop for the number after `agent_step`.
  let timings := timingsOf metrics
  let steps := toolCallStep timings agent_step steps
  let number := agent_step + 1
  if (timings.lookup (llmKey number)).isSome then
    let tokens := (metrics.lookup ("llm_tokens_step_" ++ toString number)).getD (.int 0)
    llmStep python tokens
      { step_type := "llm_followup", latency_ms := timing timings (llmKey number) } steps
  else .ok steps

def buildSteps (metrics : Dict Value) (final_action : String) (final_confidence : Rat) :
    Except PyError (List TraceStep) := do
  let timings := timingsOf metrics
  let steps := retrievalStep python metrics (guardStep timings "guard_input" "input" [])
  let steps ← llmStep python ((metrics.lookup "llm_tokens").getD (.int 0))
    { step_type := "llm_decision", latency_ms := timing timings "llm_step_0"
      action := some final_action, confidence := some final_confidence } steps
  let steps ← (List.range (agentSteps metrics)).foldlM (toolAndFollowup python metrics) steps
  return guardStep timings "guard_output" "output" steps

def TraceStep.isLlm (step : TraceStep) : Bool :=
  step.step_type = "llm_decision" || step.step_type = "llm_followup"

def TraceStep.isTool (step : TraceStep) : Bool := step.step_type = "tool_call"

/-- `AgentTracer.build`. -/
def buildAgentTrace (told : TurnFacts) (metrics : Dict Value) : Except PyError AgentTrace := do
  let steps ← buildSteps python metrics told.final_action told.final_confidence
  return {
    toTurnFacts := told
    steps
    total_llm_calls := (steps.filter TraceStep.isLlm).length
    total_tool_calls := (steps.filter TraceStep.isTool).length
    tokens_total := ((steps.filter TraceStep.isLlm).map TraceStep.tokens_total).sum
    guard_blocked := ((metrics.lookup "guard_block").map Value.truthy).getD false }

end Tracer

theorem underscore_not_mem (number : Nat) : '_' ∉ (toString number).toList := by
  rw [Nat.toString_eq_ofList_toDigits, String.toList_ofList]
  intro member
  have digit := Nat.isDigit_of_mem_toDigits (by decide) (by decide) member
  exact absurd digit (by decide)

theorem toString_injective {first second : Nat}
    (same : (toString first).toList = (toString second).toList) : first = second := by
  rw [Nat.toString_eq_ofList_toDigits, Nat.toString_eq_ofList_toDigits, String.toList_ofList,
    String.toList_ofList] at same
  have numbers := congrArg (Nat.ofDigitChars 10 · 0) same
  simpa only [Nat.ofDigitChars_ten_toDigits] using numbers

variable (name : String) (agent_step : Nat)

theorem toList_toolKey :
    (toolKey name agent_step).toList =
      "tool_".toList ++ (name.toList ++ '_' :: (toString agent_step).toList) := by
  simp [toolKey]

theorem isToolKey_iff (wanted : Nat) :
    (startsTool (toolKey name agent_step) &&
        findToolKey.endsWith wanted (toolKey name agent_step)) = true ↔ wanted = agent_step := by
  have ends : ("_" ++ toString wanted).toList = '_' :: (toString wanted).toList := by simp
  have whole : (toolKey name agent_step).toList =
      ("tool_".toList ++ name.toList) ++ '_' :: (toString agent_step).toList := by
    rw [toList_toolKey, List.append_assoc]
  rw [Bool.and_eq_true, startsTool, findToolKey.endsWith, List.isPrefixOf_iff_prefix,
    List.isSuffixOf_iff_suffix, ends]
  constructor
  · rintro ⟨-, suffix⟩
    rw [whole, end_of_joined_iff _ _ _ _ (underscore_not_mem _) (underscore_not_mem _)] at suffix
    exact toString_injective suffix
  · rintro rfl
    constructor
    · rw [toList_toolKey]
      exact List.prefix_append _ _
    · rw [whole]
      exact List.suffix_append _ _

theorem parseToolName_toolKey : parseToolName (toolKey name agent_step) = name := by
  have rest : (toolKey name agent_step).toList.drop 5 =
      name.toList ++ '_' :: (toString agent_step).toList := by
    rw [toList_toolKey]
    rfl
  unfold parseToolName
  simp only [rest, splitLast_joined '_' _ _ (underscore_not_mem _), String.ofList_toList]

/-- `llm_tokens` for the first decision call, and a key with a number for each later one. -/
def tokensKey : Nat → String
  | 0 => "llm_tokens"
  | number + 1 => "llm_tokens_step_" ++ toString (number + 1)

theorem tokensKey_inj {first second : Nat} (same : tokensKey first = tokensKey second) :
    first = second := by
  have apart (number : Nat) : tokensKey 0 ≠ tokensKey (number + 1) := by
    intro same
    have lengths := congrArg String.length same
    have long : "llm_tokens".length < "llm_tokens_step_".length := by decide
    simp only [tokensKey, String.length_append] at lengths
    omega
  cases first with
  | zero =>
    cases second with
    | zero => rfl
    | succ second => exact absurd same (apart second)
  | succ first =>
    cases second with
    | zero => exact absurd same.symm (apart first)
    | succ second =>
      have texts := congrArg String.toList same
      simp only [tokensKey, String.toList_append, List.append_cancel_left_eq] at texts
      exact toString_injective texts

structure ReadBack (names : Nat → String) (tokens : Nat → Value) (steps : Nat)
    (metrics : Dict Value) : Prop where
  counted : agentSteps metrics = steps
  answered : ∀ k ≤ steps, ((timingsOf metrics).lookup (llmKey k)).isSome
  tool : ∀ k < steps,
    findToolKey ((timingsOf metrics).map Prod.fst) k = some (toolKey (names k) k)
  tokens : ∀ k ≤ steps, metrics.lookup (tokensKey k) = some (tokens k)

theorem tokensKey_begins (number : Nat) :
    "llm_tokens".toList.isPrefixOf (tokensKey number).toList = true := by
  cases number with
  | zero => decide
  | succ number => simp [tokensKey]

def toolEntries (steps : List TraceStep) : List (Option String × Option Bool) :=
  (steps.filter TraceStep.isTool).map fun step => (step.tool, step.tool_success)

def llmTokens (steps : List TraceStep) : List Int :=
  (steps.filter TraceStep.isLlm).map TraceStep.tokens_total

section Steps

variable (sofar : List TraceStep) (added : TraceStep)

theorem toolEntries_append :
    toolEntries (appendStep sofar added) =
      toolEntries sofar ++ if added.isTool then [(added.tool, added.tool_success)] else [] := by
  have kind (number : Nat) : TraceStep.isTool { added with step := number } = added.isTool := rfl
  by_cases tool : added.isTool <;> simp [toolEntries, appendStep, kind, tool]

theorem llmTokens_append :
    llmTokens (appendStep sofar added) =
      llmTokens sofar ++ if added.isLlm then [added.tokens_total] else [] := by
  have kind (number : Nat) : TraceStep.isLlm { added with step := number } = added.isLlm := rfl
  by_cases llm : added.isLlm <;> simp [llmTokens, appendStep, kind, llm]

theorem optional_same (taken : Prop) [Decidable taken] (tool : added.isTool = false)
    (llm : added.isLlm = false) :
    toolEntries (if taken then appendStep sofar added else sofar) = toolEntries sofar ∧
      llmTokens (if taken then appendStep sofar added else sofar) = llmTokens sofar := by
  split_ifs
  · rw [toolEntries_append, llmTokens_append]
    simp [tool, llm]
  · exact ⟨rfl, rfl⟩

theorem guardStep_same (timings : Dict Value) (key detail : String) :
    toolEntries (guardStep timings key detail sofar) = toolEntries sofar ∧
      llmTokens (guardStep timings key detail sofar) = llmTokens sofar :=
  optional_same sofar _ _ rfl rfl

theorem retrievalStep_same (python : Python) (metrics : Dict Value) :
    toolEntries (retrievalStep python metrics sofar) = toolEntries sofar ∧
      llmTokens (retrievalStep python metrics sofar) = llmTokens sofar :=
  optional_same sofar _ _ rfl rfl

end Steps

section Build

variable (python : Python) {names : Nat → String} {tokens : Nat → Value} {steps : Nat}
  {metrics : Dict Value} (read : ReadBack names tokens steps metrics)

include read

variable (sofar : List TraceStep)

theorem toolAndFollowup_spec (k : Nat) (before : k < steps) :
    ∃ after : Int → List TraceStep,
      toolAndFollowup python metrics sofar k = (readTokens python (tokens (k + 1))).map after ∧
      ∀ amount, toolEntries (after amount) = toolEntries sofar ++ [(some (names k), some true)] ∧
        llmTokens (after amount) = llmTokens sofar ++ [amount] := by
  have named : metrics.lookup ("llm_tokens_step_" ++ toString (k + 1)) = some (tokens (k + 1)) :=
    read.tokens (k + 1) before
  simp only [toolAndFollowup, toolCallStep, read.tool k before, read.answered (k + 1) before,
    if_true, named, Option.getD_some, llmStep, parseToolName_toolKey]
  refine ⟨fun amount => appendStep
    (appendStep sofar
      { step_type := "tool_call"
        latency_ms := timing (timingsOf metrics) (toolKey (names k) k)
        tool := some (names k), tool_success := some true })
    { step_type := "llm_followup"
      latency_ms := timing (timingsOf metrics) (llmKey (k + 1)), tokens_total := amount }, ?_, ?_⟩
  · cases readTokens python (tokens (k + 1)) <;> rfl
  · intro amount
    rw [toolEntries_append, toolEntries_append, llmTokens_append, llmTokens_append]
    simp [TraceStep.isTool, TraceStep.isLlm]

theorem followups_spec (count : Nat) (within : count ≤ steps) :
    (∃ k < count, ∃ error, readTokens python (tokens (k + 1)) = .error error) ∧
        (∃ error, (List.range count).foldlM (toolAndFollowup python metrics) sofar =
          .error error) ∨
      ∃ (amounts : List Int) (made : List TraceStep),
        ((List.range count).map fun k => readTokens python (tokens (k + 1))) = amounts.map .ok ∧
        (List.range count).foldlM (toolAndFollowup python metrics) sofar = .ok made ∧
        toolEntries made =
          toolEntries sofar ++ (List.range count).map (fun k => (some (names k), some true)) ∧
        llmTokens made = llmTokens sofar ++ amounts := by
  induction count with
  | zero => exact .inr ⟨[], sofar, rfl, rfl, by simp, by simp⟩
  | succ count ih =>
    rw [List.range_succ, List.foldlM_append]
    rcases ih (by omega) with ⟨⟨k, before, unread⟩, error, failed⟩ |
      ⟨amounts, made, readings, run, tools, llm⟩
    · left
      refine ⟨⟨k, by omega, unread⟩, error, ?_⟩
      rw [failed]
      rfl
    · obtain ⟨after, last, each⟩ := toolAndFollowup_spec python read made count (by omega)
      rw [run]
      cases reading : readTokens python (tokens (count + 1)) with
      | error error =>
        left
        refine ⟨⟨count, by omega, error, reading⟩, error, ?_⟩
        simp [bind, Except.bind, last, reading, Except.map]
      | ok amount =>
        right
        refine ⟨amounts ++ [amount], after amount, ?_, ?_, ?_, ?_⟩
        · simp [readings, reading]
        · simp [bind, Except.bind, last, reading, Except.map, pure, Except.pure]
        · rw [(each amount).1, tools]
          simp
        · rw [(each amount).2, llm]
          simp

theorem buildAgentTrace_spec (told : TurnFacts) :
    (∃ k ≤ steps, ∃ error, readTokens python (tokens k) = .error error) ∧
        (∃ error, buildAgentTrace python told metrics = .error error) ∨
      ∃ (amounts : List Int) (trace : AgentTrace),
        ((List.range (steps + 1)).map fun k => readTokens python (tokens k)) = amounts.map .ok ∧
        buildAgentTrace python told metrics = .ok trace ∧
        trace.total_llm_calls = steps + 1 ∧ trace.tokens_total = amounts.sum ∧
        toolEntries trace.steps =
          (List.range steps).map fun k => (some (names k), some true) := by
  have named : metrics.lookup "llm_tokens" = some (tokens 0) := read.tokens 0 (Nat.zero_le _)
  simp only [buildAgentTrace, buildSteps, read.counted, named, Option.getD_some, llmStep]
  cases first : readTokens python (tokens 0) with
  | error error => exact .inl ⟨⟨0, Nat.zero_le _, error, first⟩, error, rfl⟩
  | ok amount =>
    simp only [bind, Except.bind, pure, Except.pure]
    generalize begun : appendStep _ _ = sofar
    have tools : toolEntries sofar = [] := by
      rw [← begun, toolEntries_append, (retrievalStep_same ..).1, (guardStep_same ..).1]
      simp [TraceStep.isTool, toolEntries]
    have llm : llmTokens sofar = [amount] := by
      rw [← begun, llmTokens_append, (retrievalStep_same ..).2, (guardStep_same ..).2]
      simp [TraceStep.isLlm, llmTokens]
    rcases followups_spec python read sofar steps le_rfl with
      ⟨⟨k, before, unread⟩, error, failed⟩ | ⟨amounts, made, readings, run, tools', llm'⟩
    · left
      refine ⟨⟨k + 1, by omega, unread⟩, error, ?_⟩
      rw [failed]
    · right
      rw [run]
      have total := (guardStep_same made (timingsOf metrics) "guard_output" "output").2
      rw [llm', llm, List.singleton_append] at total
      refine ⟨amount :: amounts, _, ?_, rfl, ?_, ?_, ?_⟩
      · rw [List.range_succ_eq_map, List.map_cons, List.map_map, first]
        exact congrArg _ readings
      · have counted := congrArg List.length total
        have same := congrArg List.length readings
        simp only [llmTokens, List.length_map, List.length_cons, List.length_range] at counted same
        rw [counted, ← same]
      · exact congrArg List.sum total
      · rw [(guardStep_same ..).1, tools', tools]
        rfl

end Build

def amountOf : Value → Option Rat
  | .bool value => some (if value then 1 else 0)
  | .int value => some value
  | .float value => some value
  | _ => none

def totalOf : List Value → Option Rat
  | [] => some 0
  | tokens :: rest => do return (← amountOf tokens) + (← totalOf rest)

/-- What the lax `int` fields of the models make of numbers. -/
structure LaxInts (python : Python) : Prop where
  whole : ∀ number : Int, python.laxInt (.int number) = some number
  kept : ∀ (value : Value) (number : Int), python.laxInt value = some number →
    ∀ amount : Rat, amountOf value = some amount → amount = number

section Lax

variable {python : Python} (lax : LaxInts python)

include lax

theorem readTokens_amount {value : Value} {amount : Int}
    (reading : readTokens python value = .ok amount) : amountOf value = some (amount : Rat) := by
  obtain ⟨_, costed, read⟩ := (bind_eq_ok _ _ _).mp reading
  have numeric : ∃ number, amountOf value = some number := by
    cases value with
    | bool value => exact ⟨_, rfl⟩
    | int value => exact ⟨_, rfl⟩
    | float value => exact ⟨_, rfl⟩
    | nonFinite name =>
      by_cases nan : name = "NaN" <;> simp [computeCost, nan] at costed
    | none => cases costed
    | str text => cases costed
    | list items => cases costed
    | dict entries => cases costed
  obtain ⟨number, numeric⟩ := numeric
  cases taken : python.laxInt value with
  | none =>
    rw [taken] at read
    cases read
  | some other =>
    rw [taken] at read
    cases read
    rw [numeric, lax.kept value amount taken number numeric]

theorem totalOf_amounts (values : List Value) (amounts : List Int)
    (readings : (values.map fun tokens => readTokens python tokens) = amounts.map .ok) :
    totalOf values = some ((amounts.sum : Int) : Rat) := by
  induction values generalizing amounts with
  | nil =>
    cases amounts with
    | nil => simp [totalOf]
    | cons amount rest => cases readings
  | cons value values ih =>
    cases amounts with
    | nil => cases readings
    | cons amount rest =>
      obtain ⟨first, later⟩ := List.cons.inj readings
      simp [totalOf, readTokens_amount lax first, ih rest later]

theorem buildAgentTrace_empty (told : TurnFacts) :
    ∃ trace, buildAgentTrace python told [] = .ok trace ∧ trace.total_llm_calls = 1 ∧
      trace.tokens_total = 0 ∧ toolEntries trace.steps = [] := by
  have zero : readTokens python (.int 0) = .ok 0 := by
    have small : ¬floatLimit ≤ (0 : Int).natAbs := by decide
    simp only [readTokens, computeCost, small, if_false, lax.whole, bind, Except.bind]
  let step : TraceStep :=
    { step_type := "llm_decision", action := some told.final_action
      confidence := some told.final_confidence }
  refine ⟨{ toTurnFacts := told, steps := [step], total_llm_calls := 1 }, ?_, rfl, rfl, rfl⟩
  simp only [buildAgentTrace, buildSteps, llmStep, List.lookup_nil, Option.getD_none, zero, bind,
    Except.bind]
  rfl

end Lax

end HelpForge.Chatbot
