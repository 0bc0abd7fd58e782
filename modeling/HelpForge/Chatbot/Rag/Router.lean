import HelpForge.Chatbot.Conversation.Detectors
import HelpForge.Chatbot.Rag.Gateway

set_option autoImplicit false

namespace HelpForge.Chatbot

inductive QueryType where
  | small_talk
  | action
  | faq
  | complaint
  | unknown
  deriving DecidableEq, Repr

def QueryType.value : QueryType → String
  | .small_talk => "small_talk"
  | .action => "action"
  | .faq => "faq"
  | .complaint => "complaint"
  | .unknown => "unknown"

structure RouteResult where
  query_type : QueryType
  intent : String
  confidence : Rat
  use_rag : Bool
  canned_response : Option String := none
  extracted_action : Option String := none

structure RouteRule where
  pattern : String
  intent : String
  outcome : String

namespace QueryRouter

def smallTalkRules : List RouteRule :=
  [⟨"^(hi+|hello+|hey+|howdy|greetings|good\\s+(morning|afternoon|evening))[!.,\\s]*$",
      "greeting", "Hello! How can I help you today?"⟩,
    ⟨"^(thanks?|thank\\s+you|thx|ty|appreciate\\s+it)[!.,\\s]*$",
      "thanks", "You're welcome! Let me know if there's anything else I can help with."⟩,
    ⟨"^(bye|goodbye|see\\s+you|cya|take\\s+care|have\\s+a\\s+good)[!.,\\s\\w]*$",
      "farewell", "Goodbye! Feel free to return if you need further assistance."⟩,
    ⟨"^(ok|okay|got\\s+it|understood|alright|sure|sounds?\\s+good)[!.,\\s]*$",
      "acknowledgment", "Got it! Is there anything specific I can help you with?"⟩,
    ⟨"^(yes|no|yep|nope|yeah|nah)[!.,\\s]*$",
      "short_reply", "Could you tell me more about what you're looking for?"⟩]

def actionRules : List RouteRule :=
  [⟨"\\b(escalate|speak\\s+to\\s+(a\\s+)?(human|agent|person|support)|" ++
      "talk\\s+to\\s+(a\\s+)?human|need\\s+a\\s+human)\\b", "escalate", "escalate"⟩,
    ⟨"\\b(close|resolve|mark\\s+(as\\s+)?(resolved|closed|done)|close\\s+this\\s+ticket)\\b",
      "close_ticket", "close_ticket"⟩,
    ⟨"\\b(reopen|re-open|open\\s+again|reactivate)\\b", "reopen_ticket", "reopen_ticket"⟩,
    ⟨"\\b(cancel|abort|stop|never\\s+mind)\\b", "cancel", "cancel"⟩]

def actionResponses : Dict String :=
  [("escalate", "I'll connect you with a human support agent right away. Please hold on."),
    ("close_ticket",
      "I've noted your request to close this ticket. A confirmation will be sent shortly."),
    ("reopen_ticket", "I'll reopen this ticket so our team can follow up with you."),
    ("cancel", "No problem — let me know if there's anything else I can help you with.")]

def faqSignals : String :=
  "\\b(how\\s+(do|can|should|to)|what\\s+(is|are|does|do)|where\\s+(is|can|do)|" ++
    "when\\s+(will|is|can)|why\\s+(is|does|can)|can\\s+you|could\\s+you|is\\s+there|" ++
    "do\\s+you|tell\\s+me)\\b|\\?"

def complaintSignals : String :=
  "\\b(not\\s+working|broken|error|issue|problem|bug|fail(ed|ure|ing)?|" ++
    "crash(ed|ing)?|can'?t|cannot|unable|doesn'?t\\s+work|stopped\\s+working|" ++
    "trouble|frustrated|wrong|incorrect|missing)\\b"

def routerSystem : String :=
  "\n".intercalate
    ["Classify the following customer support message into exactly ONE category.",
     "Categories: small_talk | faq | action | complaint | unknown", "", "Rules:",
     "- small_talk: greetings, thanks, acknowledgments, short social messages",
     "- faq: questions asking how, what, where, when, why",
     "- action: requesting escalation, ticket close/reopen, cancel",
     "- complaint: reporting a problem, error, or broken feature",
     "- unknown: none of the above", "",
     "Respond with ONLY the category name — no explanation, no punctuation.", ""]

def shortInputResponse : String := "Could you tell me more about what you need help with?"

section Classification

variable (python : Python) (regex : Regex) (model : LanguageModel)

/-- `_rule_based`. The patterns of small talk are anchored, so `match` finds what `search`
does. -/
def ruleBased (query : String) : Option RouteResult :=
  let text := stripped query
  if text.length ≤ 8 ∧ regex.search complaintSignals text = false then
    some {
      query_type := .small_talk, intent := "short_input", confidence := 75 / 100
      use_rag := false, canned_response := some shortInputResponse }
  else if let some rule := smallTalkRules.find? fun rule => regex.search rule.pattern text then
    some {
      query_type := .small_talk, intent := rule.intent, confidence := 95 / 100
      use_rag := false, canned_response := some rule.outcome }
  else if let some rule := actionRules.find? fun rule => regex.search rule.pattern text then
    some {
      query_type := .action, intent := rule.intent, confidence := 90 / 100
      use_rag := false, canned_response := actionResponses.lookup rule.outcome
      extracted_action := some rule.outcome }
  else if regex.search complaintSignals text then
    some { query_type := .complaint, intent := "problem_report", confidence := 80 / 100, use_rag := true }
  else if regex.search faqSignals text then
    some { query_type := .faq, intent := "how_to", confidence := 75 / 100, use_rag := true }
  else none

def makeRouteResult (query_type : QueryType) (confidence : Rat) : RouteResult :=
  let use_rag := query_type = .faq ∨ query_type = .complaint ∨ query_type = .unknown
  { query_type
    intent := query_type.value
    confidence
    use_rag
    canned_response := if use_rag then none else actionResponses.lookup query_type.value }

def routerRequest (org_id query : String) : ModelRequest where
  orgId := org_id
  messages := [ModelRequest.userMessage query]
  systemPrompt := routerSystem

/-- `_llm_classify`; a call that fails leaves the type unknown. -/
def llmClassify (org_id query : String) : RouteResult :=
  match model.generate (routerRequest org_id query) with
  | .error _ => makeRouteResult .unknown 0
  | .ok answer =>
    let raw := python.lower (stripped answer.content)
    let query_type := ([.small_talk, .action, .faq, .complaint, .unknown] : List QueryType).find?
      fun query_type => query_type.value = raw
    makeRouteResult (query_type.getD .unknown) (70 / 100)

def classify (org_id query : String) : RouteResult :=
  (ruleBased regex query).getD (llmClassify python model org_id query)

def classifyRequests (org_id query : String) : List ModelRequest :=
  if (ruleBased regex query).isNone then model.received (routerRequest org_id query) else []

end Classification

/-- The answer to a message that needs no retrieval: `canned_response or ...`. -/
def canned (route : RouteResult) : String :=
  orElse (route.canned_response.getD "") "How can I help you?"

def cannedTexts : List String :=
  [shortInputResponse, "How can I help you?"] ++ smallTalkRules.map RouteRule.outcome ++
    actionResponses.map Prod.snd

section Canned

variable (python : Python) (regex : Regex) (model : LanguageModel)

theorem canned_mem_of_lookup (route : RouteResult) (key : String)
    (same : route.canned_response = actionResponses.lookup key) : canned route ∈ cannedTexts := by
  rcases found : actionResponses.lookup key with _ | text
  · rw [canned, same, found]
    decide
  · obtain ⟨before, after, split, -⟩ := List.lookup_eq_some_iff.mp found
    have among : text ∈ actionResponses.map Prod.snd := by
      rw [split]
      simp
    have nonempty : ∀ text ∈ actionResponses.map Prod.snd, text ≠ "" := by decide
    rw [canned, same, found, Option.getD_some, orElse, if_neg (nonempty text among)]
    exact List.mem_append_right _ among

theorem canned_makeRouteResult (query_type : QueryType) (confidence : Rat) :
    canned (makeRouteResult query_type confidence) ∈ cannedTexts := by
  rw [show canned (makeRouteResult query_type confidence) =
    canned (makeRouteResult query_type 0) from rfl]
  cases query_type <;> decide

theorem canned_ruleBased (query : String) (route : RouteResult)
    (ruled : ruleBased regex query = some route) : canned route ∈ cannedTexts := by
  unfold ruleBased at ruled
  simp only at ruled
  split at ruled
  · cases ruled
    decide
  split at ruled
  · rename_i rule found
    cases ruled
    have among := List.mem_of_find?_eq_some found
    have nonempty : ∀ rule ∈ smallTalkRules, rule.outcome ≠ "" := by decide
    rw [canned, Option.getD_some, orElse, if_neg (nonempty rule among)]
    exact List.mem_append_left _ (List.mem_append_right _ (List.mem_map_of_mem among))
  split at ruled
  · cases ruled
    exact canned_mem_of_lookup _ _ rfl
  split at ruled
  · cases ruled
    decide
  split at ruled
  · cases ruled
    decide
  · cases ruled

theorem canned_classify (org_id query : String) :
    canned (classify python regex model org_id query) ∈ cannedTexts := by
  unfold classify
  cases ruled : ruleBased regex query with
  | some route => exact canned_ruleBased regex query route ruled
  | none =>
    rw [Option.getD_none, llmClassify]
    split
    · exact canned_makeRouteResult ..
    · exact canned_makeRouteResult ..

end Canned

end QueryRouter

end HelpForge.Chatbot
