import HelpForge.Chatbot.Agent.Decision
import Mathlib.Algebra.Ring.Rat

set_option autoImplicit false

namespace HelpForge.Chatbot

structure MetricsCollector where
  durations : Dict Rat := []
  counters : Dict Int := []
  values : Dict Value := []

namespace MetricsCollector

def timed (metrics : MetricsCollector) (name : String) (seconds : Rat) : MetricsCollector :=
  { metrics with durations := Dict.put metrics.durations name seconds }

def increment (metrics : MetricsCollector) (name : String) : MetricsCollector :=
  let count := (metrics.counters.lookup name).getD 0 + 1
  { metrics with counters := Dict.put metrics.counters name count }

def record (metrics : MetricsCollector) (name : String) (value : Value) : MetricsCollector :=
  { metrics with values := Dict.put metrics.values name value }

def milliseconds (seconds : Rat) : Value := .float (roundTo 2 (seconds * 1000))

def emit (metrics : MetricsCollector) (context : Dict Value) : Dict Value :=
  let timings := metrics.durations.map fun entry => (entry.1, milliseconds entry.2)
  let payload := Dict.put context "timings_ms" (.dict timings)
  let payload :=
    if metrics.durations.isEmpty then payload
    else Dict.put payload "total_ms" (milliseconds (metrics.durations.map Prod.snd).sum)
  let payload := Dict.merge payload (metrics.counters.map fun entry => (entry.1, .int entry.2))
  Dict.merge payload metrics.values

end MetricsCollector

structure DryRunStep where
  step : Nat
  step_type : String
  action : Option String := none
  confidence : Option Rat := none
  reasoning : Option String := none
  message : Option String := none
  tool : Option String := none
  tool_input : Option (Dict Value) := none
  tool_cost : Option String := none
  simulated_result : Option (Dict Value) := none
  latency_ms : Option Value := none
  detail : Option String := none

structure DryRunTrace where
  mode : String
  org_id : String
  ticket_id : String
  query : String
  steps : List DryRunStep
  final_action : String
  final_confidence : Rat
  final_message : String
  total_llm_calls : Nat := 0
  total_tool_calls : Nat := 0
  simulated_tools : List String := []
  total_latency_ms : Value := .float 0

def dumped {α : Type} (dump : α → Value) (field : Option α) : Value := (field.map dump).getD .none

def DryRunStep.modelDump (step : DryRunStep) : Value := .dict
  [("step", .int step.step), ("step_type", .str step.step_type),
    ("action", dumped .str step.action), ("confidence", dumped .float step.confidence),
    ("reasoning", dumped .str step.reasoning), ("message", dumped .str step.message),
    ("tool", dumped .str step.tool), ("tool_input", dumped .dict step.tool_input),
    ("tool_cost", dumped .str step.tool_cost),
    ("simulated_result", dumped .dict step.simulated_result),
    ("latency_ms", dumped id step.latency_ms), ("detail", dumped .str step.detail)]

def DryRunTrace.modelDump (trace : DryRunTrace) : Value := .dict
  [("dry_run", .bool true), ("mode", .str trace.mode), ("org_id", .str trace.org_id),
    ("ticket_id", .str trace.ticket_id), ("query", .str trace.query),
    ("steps", .list (trace.steps.map DryRunStep.modelDump)),
    ("final_action", .str trace.final_action), ("final_confidence", .float trace.final_confidence),
    ("final_message", .str trace.final_message), ("total_llm_calls", .int trace.total_llm_calls),
    ("total_tool_calls", .int trace.total_tool_calls),
    ("simulated_tools", .list (trace.simulated_tools.map .str)),
    ("total_latency_ms", trace.total_latency_ms)]

end HelpForge.Chatbot
