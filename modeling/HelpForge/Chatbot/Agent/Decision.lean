import HelpForge.Chatbot.Python
import Mathlib.Algebra.Order.Ring.Unbundled.Rat

set_option autoImplicit false

namespace HelpForge.Chatbot

inductive AgentMode where
  | chat
  | automation
  | augmentation
  deriving DecidableEq, Repr

def AgentMode.value : AgentMode → String
  | .chat => "chat"
  | .automation => "automation"
  | .augmentation => "augmentation"

inductive AgentAction where
  | respond
  | tool_call
  | escalate
  | suggest
  deriving DecidableEq, Repr

def AgentAction.value : AgentAction → String
  | .respond => "respond"
  | .tool_call => "tool_call"
  | .escalate => "escalate"
  | .suggest => "suggest"

def AgentAction.all : List AgentAction := [.respond, .tool_call, .escalate, .suggest]

def AgentAction.ofValue (text : String) : Option AgentAction :=
  AgentAction.all.find? fun action => action.value = text

structure AgentDecision where
  mode : AgentMode
  action : AgentAction
  tool : Option String := none
  tool_input : Dict Value := []
  confidence : Rat
  reasoning : String
  message : String
  tool_result : Option (Dict Value) := none
  metadata : Dict Value := []

/-- `AgentDecision(**data)`, where the mode of `data` is the caller's. -/
def AgentDecision.ofData (python : Python) (mode : AgentMode) (data : Dict Value) :
    Except PyError AgentDecision :=
  let validated : Option AgentDecision := do
    let action ← AgentAction.ofValue (← (← data.lookup "action").asStr)
    let tool ← optional Value.asStr (← data.lookup "tool")
    let tool_input ← (← data.lookup "tool_input").asDict
    let confidence ← match ← data.lookup "confidence" with
      | .float value => if 0 ≤ value ∧ value ≤ 1 then some value else none
      | _ => none
    let reasoning ← (← data.lookup "reasoning").asStr
    let message ← (← data.lookup "message").asStr
    let tool_result ← optional Value.asDict (← data.lookup "tool_result")
    let metadata ← (← data.lookup "metadata").asDict
    return { mode, action, tool, tool_input, confidence, reasoning, message, tool_result, metadata }
  match validated with
  | some decision => .ok decision
  | none => .error ⟨"ValidationError", python.validationText "AgentDecision" data⟩
where
  optional {α : Type} (read : Value → Option α) : Value → Option (Option α)
    | .none => some none
    | value => (read value).map some

def fallbackMessage : String :=
  "I'm having trouble processing this request right now. " ++
    "A support agent will follow up with you shortly."

/-- `AgentDecision(**build_fallback_decision_dict(mode, reason))`. -/
def buildFallbackDecision (mode : AgentMode) (reason : String) : AgentDecision where
  mode := mode
  action := .escalate
  confidence := 0
  reasoning := "Fallback — " ++ reason
  message := fallbackMessage

def backticks : List Char := "```".toList

def untilFence (taken : List Char) : List Char → Option (List Char)
  -- From inside a block to the first brace that a fence follows.
  | [] => none
  | char :: rest =>
    if char = '}' ∧ backticks.isPrefixOf (rest.dropWhile isSpace) then
      some (taken.reverse ++ [char])
    else untilFence (char :: taken) rest

/-- The group of `_JSON_BLOCK_RE`, matched at the beginning of the text. -/
def blockAt (text : List Char) : Option (List Char) :=
  if backticks.isPrefixOf text then
    let body := text.drop 3
    let body := if "json".toList.isPrefixOf body then body.drop 4 else body
    match body.dropWhile isSpace with
    | '{' :: rest => untilFence ['{'] rest
    | _ => none
  else none

def jsonBlock : List Char → Option (List Char)
  | [] => none
  | char :: rest => (blockAt (char :: rest)).or (jsonBlock rest)

/-- What `_JSON_OBJECT_RE` finds: from the first opening brace to the last closing one. -/
def jsonObject (text : List Char) : Option (List Char) :=
  let opened := text.dropWhile (· != '{')
  if opened.contains '}' then some (opened.reverse.dropWhile (· != '}')).reverse else none

def extractJson (python : Python) (text : String) : Except PyError Value :=
  attempt (some (strip text.toList)) <|
    attempt (jsonBlock text.toList) <|
      attempt (jsonObject text.toList) <|
        .error ⟨"ValueError", "No valid JSON found in LLM output (first 300 chars): " ++
          python.repr (String.ofList (text.toList.take 300))⟩
where
  attempt (candidate : Option (List Char)) (otherwise : Except PyError Value) :
      Except PyError Value :=
    match candidate with
    | none => otherwise
    | some text =>
      match python.loads (String.ofList text) with
      | .ok value => .ok value
      | .error error => if error.isValueError then otherwise else .error error

structure AgentValidator where
  all_tool_names : List String
  active_tool_names : List String

/-- `isinstance` for the types that a decision asks for, and their text. -/
inductive FieldType where
  | str
  | number

def FieldType.accepts : FieldType → Value → Bool
  | .str, .str _ => true
  | .number, .bool _ => true
  | .number, .int _ => true
  | .number, .float _ => true
  | .number, .nonFinite _ => true
  | _, _ => false

def FieldType.text : FieldType → String
  | .str => "<class 'str'>"
  | .number => "(<class 'int'>, <class 'float'>)"

def requiredFields : List (String × FieldType) :=
  [("action", .str), ("confidence", .number), ("reasoning", .str), ("message", .str)]

/-- `float(value)` of a number; `none` stands for `NaN` and the infinities. -/
def toFloat : Value → Except PyError (Option Rat)
  | .bool value => .ok (some (if value then 1 else 0))
  | .int value =>
    if floatLimit ≤ value.natAbs then
      .error ⟨"OverflowError", "int too large to convert to float"⟩
    else .ok (some value)
  | .float value => .ok (some value)
  | _ => .ok none

def invalid (text : String) : PyError := ⟨"ValidationError", text⟩

namespace AgentValidator

def checkRequired (data : Dict Value) : List (String × FieldType) → Except PyError Unit
  | [] => .ok ()
  | (field, expected) :: rest =>
    match data.lookup field with
    | none => .error (invalid ("Missing required field: '" ++ field ++ "'"))
    | some value =>
      if expected.accepts value then checkRequired data rest
      else .error (invalid ("Field '" ++ field ++ "' has wrong type: expected " ++ expected.text ++
        ", got " ++ value.typeName))

def checkTool (python : Python) (validator : AgentValidator) (data : Dict Value) :
    Except PyError Unit :=
  match data.lookup "tool" with
  | some (.str tool) =>
    if tool = "" then .error (invalid "action=tool_call requires a non-empty 'tool' string")
    else if validator.all_tool_names ≠ [] ∧ tool ∉ validator.all_tool_names then
      .error (invalid ("Unknown tool '" ++ tool ++ "'; registered: " ++
        python.str (.list (validator.all_tool_names.map .str))))
    else if validator.active_tool_names ≠ [] ∧ tool ∉ validator.active_tool_names then
      .error (invalid ("Tool '" ++ tool ++ "' is currently DISABLED — " ++
        "choose an active tool from: " ++
        python.str (.list (validator.active_tool_names.map .str))))
    else
      match (data.lookup "tool_input").getD (.dict []) with
      | .dict _ => .ok ()
      | _ => .error (invalid "'tool_input' must be a JSON object (dict)")
  | _ => .error (invalid "action=tool_call requires a non-empty 'tool' string")

def checkValues (python : Python) (validator : AgentValidator) (data : Dict Value) :
    Except PyError Unit := do
  let action := (data.lookup "action").getD .none
  let confidence := (data.lookup "confidence").getD .none
  let message := ((data.lookup "message").bind Value.asStr).getD ""
  match action.asStr.bind AgentAction.ofValue with
  | none =>
    .error (invalid ("Invalid action '" ++ python.str action ++ "'; must be one of " ++
      python.setStr (AgentAction.all.map AgentAction.value)))
  | some action =>
    match ← toFloat confidence with
    | some value =>
      if ¬(0 ≤ value ∧ value ≤ 1) then
        .error (invalid ("confidence " ++ python.str (.float value) ++ " out of range [0.0, 1.0]"))
    | none =>
      .error (invalid ("confidence " ++ python.str confidence ++ " out of range [0.0, 1.0]"))
    if action = .tool_call then checkTool python validator data
    if stripped message = "" then .error (invalid "'message' must not be empty")

def validate (python : Python) (validator : AgentValidator) (data : Dict Value) :
    Except PyError Unit := do
  checkRequired data requiredFields
  checkValues python validator data

end AgentValidator

/-- `_parse_and_validate`, given what was extracted. -/
def decisionOf (python : Python) (validator : AgentValidator) (mode : AgentMode) :
    Value → Except PyError AgentDecision
  | .dict entries =>
    let data := Dict.put entries "mode" (.str mode.value)
    match validator.validate python data with
    | .error error =>
      if error.name = "ValidationError" then
        .ok (buildFallbackDecision mode ("Validation error: " ++ error.text))
      else .error error
    | .ok () => do
      let confidence := (← toFloat ((data.lookup "confidence").getD (.float 0))).getD 0
      let data := Dict.put data "confidence" (.float (roundTo 4 (min 1 (max 0 confidence))))
      let data := Dict.setdefault data "tool" .none
      let data := Dict.setdefault data "tool_input" (.dict [])
      let data := Dict.setdefault data "tool_result" .none
      let data := Dict.setdefault data "metadata" (.dict [])
      AgentDecision.ofData python mode data
  | other => .error other.noItemAssignment

def parseAndValidate (python : Python) (validator : AgentValidator) (mode : AgentMode) :
    Value → Except PyError AgentDecision
  | .str text =>
    match extractJson python text with
    | .error error =>
      if error.isValueError then
        .ok (buildFallbackDecision mode ("JSON parse error: " ++ error.text))
      else .error error
    | .ok data => decisionOf python validator mode data
  | other => .error (other.noAttribute "strip")

end HelpForge.Chatbot
