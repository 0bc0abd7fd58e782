import HelpForge.Chatbot.Agent.Run
import HelpForge.Chatbot.Conversation.State
import Mathlib.Algebra.Order.Ring.Unbundled.Rat

set_option autoImplicit false

/-!
# What is detected in a message

How the regular expressions match is a parameter.
-/

namespace HelpForge.Chatbot

open Lib

structure RegexMatch where
  whole : String
  group : Option String

/-- `re.compile(pattern, re.I).search(text)`, and `finditer` with or without `re.I`. -/
structure Regex where
  search : String → String → Bool
  finditer : String → Bool → String → List RegexMatch

structure Rule where
  pattern : String
  weight : Rat
  label : String

inductive Intent where
  | complaint
  | refund_request
  | billing
  | technical_support
  | status_check
  | cancellation
  | info_request
  | compliment
  | general
  deriving DecidableEq, Repr

def Intent.value : Intent → String
  | .complaint => "complaint"
  | .refund_request => "refund_request"
  | .billing => "billing"
  | .technical_support => "technical_support"
  | .status_check => "status_check"
  | .cancellation => "cancellation"
  | .info_request => "info_request"
  | .compliment => "compliment"
  | .general => "general"

def Intent.all : List Intent :=
  [.complaint, .refund_request, .billing, .technical_support, .status_check, .cancellation,
    .info_request, .compliment, .general]

structure IntentResult where
  intent : Intent
  confidence : Rat
  sub_intent : Option String := none
  deriving DecidableEq, Repr

def intentPatterns : List (Intent × List Rule) :=
  [(.refund_request,
      [⟨"\\b(refund|money\\s*back|reimburse|chargeback|charge.?back|return.*(?:money|" ++
          "payment)|get.*(?:my\\s+)?money)\\b", 95 / 100, "refund"⟩,
       ⟨"\\b(overcharge[d]?|charged.*(?:twice|double|wrong|extra)|duplicate.*charge|" ++
          "wrong.*amount)\\b", 90 / 100, "overcharge"⟩]),
   (.billing,
      [⟨"\\b(invoice|billing|bill\\b|subscription|payment\\s+(?:due|failed|pending)|" ++
          "credit\\s+card|debit\\s+card|payment\\s+method|renew)\\b",
        92 / 100, "billing_query"⟩,
       ⟨"\\b(plan|upgrade|downgrade|pricing|cost|price|fee|charge(?!back))\\b",
        80 / 100, "plan_pricing"⟩]),
   (.cancellation,
      [⟨"\\b(cancel\\s+(?:my\\s+)?(?:account|subscription|order|service|plan)|" ++
          "delete\\s+(?:my\\s+)?account|terminate\\s+(?:service|subscription)|unsubscribe)\\b",
        95 / 100, "cancellation"⟩,
       ⟨"\\b(close\\s+(?:my\\s+)?account|stop\\s+(?:my\\s+)?(?:service|subscription|plan))\\b",
        88 / 100, "account_closure"⟩]),
   (.status_check,
      [⟨"\\b((?:order|delivery|shipment|ticket|case|request)\\s+status|where\\s+is\\s+my|" ++
          "tracking|when\\s+will\\s+(?:it|my|the)|update\\s+on\\s+my|any\\s+(?:news|" ++
          "update))\\b", 92 / 100, "status_query"⟩,
       ⟨"\\b(still\\s+waiting|hasn'?t\\s+(?:arrived|been\\s+resolved)|how\\s+long\\s+will|" ++
          "ETA|estimated\\s+time)\\b", 85 / 100, "eta_query"⟩]),
   (.technical_support,
      [⟨"\\b(error|bug|crash(?:ed|ing)?|not\\s+(?:loading|working|responding)|broken|glitch|" ++
          "freeze|hang(?:ing)?|fail(?:ed|ing|ure)?)\\b", 90 / 100, "technical_error"⟩,
       ⟨"\\b(can'?t\\s+(?:log\\s*in|sign\\s*in|access|open|connect)|login\\s+(?:issue|" ++
          "problem|error)|password\\s+reset|forgot\\s+password|two.?factor|" ++
          "account\\s+locked)\\b", 93 / 100, "login_access"⟩,
       ⟨"\\b(slow|performance|laggy|takes\\s+(?:forever|too\\s+long)|timeout|503|404|500)\\b",
        80 / 100, "performance"⟩,
       ⟨"\\b(not\\s+receiving|missing\\s+(?:email|notification|message)|didn'?t\\s+get|" ++
          "never\\s+(?:received|arrived))\\b", 82 / 100, "missing_comms"⟩]),
   (.complaint,
      [⟨"\\b(unacceptable|ridiculous|terrible|awful|horrible|worst|disgusting|pathetic|" ++
          "useless|incompetent|furious|outraged|livid|appalling)\\b",
        95 / 100, "strong_complaint"⟩,
       ⟨"\\b(disappointed|let\\s+down|not\\s+(?:good|great|happy|satisfied)|" ++
          "very\\s+(?:frustrated|upset|annoyed)|this\\s+is\\s+(?:ridiculous|unacceptable))\\b",
        85 / 100, "mild_complaint"⟩,
       ⟨"\\b(complaint|complain|issue\\s+(?:with|about)|problem\\s+(?:with|about)|" ++
          "never\\s+again|won'?t\\s+(?:use|recommend))\\b", 80 / 100, "formal_complaint"⟩]),
   (.compliment,
      [⟨"\\b(amazing|excellent|fantastic|outstanding|great\\s+(?:job|service|support|work)|" ++
          "love\\s+(?:your|the)|very\\s+helpful|super\\s+helpful|really\\s+(?:appreciate|" ++
          "helpful)|best\\s+(?:service|support))\\b", 92 / 100, "strong_compliment"⟩,
       ⟨"\\b(thank\\s+you\\s+(?:so\\s+much|very\\s+much)|much\\s+appreciated|" ++
          "really\\s+happy|very\\s+satisfied|pleased\\s+with)\\b",
        85 / 100, "mild_compliment"⟩]),
   (.info_request,
      [⟨"\\b(how\\s+(?:do|can|should|to)|what\\s+(?:is|are|does|do)|where\\s+(?:is|can|do)|" ++
          "when\\s+(?:will|is|can)|why\\s+(?:is|does|can)|is\\s+it\\s+possible|can\\s+I|" ++
          "could\\s+you\\s+explain|tell\\s+me\\s+(?:about|how|what)|" ++
          "help\\s+me\\s+understand)\\b", 85 / 100, "how_to"⟩,
       ⟨"\\b(documentation|guide|tutorial|instructions|steps\\s+to|how\\s+to\\s+set\\s+up|" ++
          "getting\\s+started)\\b", 88 / 100, "documentation"⟩])]

def intentSystem : String :=
  "\n".intercalate
    ["Classify the following customer support message into exactly ONE intent.",
     "Valid intents: complaint | refund_request | billing | technical_support | " ++
       "status_check | cancellation | info_request | compliment | general",
     "",
     "Rules:",
     "- complaint: expressing strong dissatisfaction, anger, or frustration",
     "- refund_request: asking for money back, disputing a charge",
     "- billing: questions about invoices, subscription, pricing, payments",
     "- technical_support: reporting errors, bugs, access issues, broken features",
     "- status_check: asking about order/ticket status, ETA, delivery",
     "- cancellation: wanting to cancel account, subscription, or service",
     "- info_request: asking how something works, requesting documentation",
     "- compliment: positive feedback, expressions of satisfaction",
     "- general: does not clearly fit any of the above",
     "",
     "Respond with ONLY the intent name — no explanation, no punctuation.",
     ""]

section Detection

variable (python : Python) (regex : Regex)

def ruleBased (message : String) : Option IntentResult :=
  -- The rule of the highest confidence among those that match, the first of several.
  let rules := intentPatterns.flatMap fun entry => entry.2.map fun rule => (entry.1, rule)
  rules.foldl
    (fun best entry =>
      if regex.search entry.2.pattern message ∧
          (best.elim 0 IntentResult.confidence) < entry.2.weight then
        some { intent := entry.1, confidence := entry.2.weight, sub_intent := some entry.2.label }
      else best)
    none

def readIntent (answer : Except PyError Value) : IntentResult :=
  let label : Except PyError String := do
    match ← (← answer).get "content" (.str "") with
    | .str text => .ok (python.lower (stripped text))
    | other => .error (other.noAttribute "strip")
  match label with
  | .error _ => { intent := .general, confidence := 30 / 100 }
  | .ok label =>
    let intent := (Intent.all.find? fun intent => intent.value = label).getD .general
    { intent, confidence := if intent = .general then 40 / 100 else 70 / 100 }

def detectIntent (outside : Surroundings) (org_id message : String) : AgentCall IntentResult :=
  match ruleBased regex message with
  | some result => pure result
  | none => do
    let prompt : Prompt := { org_id, content := message, system_prompt := intentSystem }
    Program.modify fun state => { state with asked := state.asked ++ [prompt] }
    pure (readIntent python (outside.generate 0 prompt))

inductive EntityType where
  | order_id
  | ticket_ref
  | account_id
  | email
  | amount
  | date
  | product
  deriving DecidableEq, Repr

def EntityType.value : EntityType → String
  | .order_id => "order_id"
  | .ticket_ref => "ticket_ref"
  | .account_id => "account_id"
  | .email => "email"
  | .amount => "amount"
  | .date => "date"
  | .product => "product"

inductive Normaliser where
  | upper
  | lower
  | strip
  | prefixed (text : String)

def Normaliser.apply (normaliser : Normaliser) (raw : String) : String :=
  match normaliser with
  | .upper => python.upper (stripped raw)
  | .lower => python.lower (stripped raw)
  | .strip => stripped raw
  | .prefixed text => text ++ stripped raw

structure EntityRule where
  entity_type : EntityType
  pattern : String
  ignoreCase : Bool
  value_group : Nat
  normaliser : Normaliser

structure Entity where
  entity_type : EntityType
  value : String
  raw_match : String
  deriving DecidableEq, Repr

def entityRules : List EntityRule :=
  [⟨.order_id, "\\b(ORD(?:ER)?[-_]?\\d\x7b4,12\x7d)\\b", true, 1, .upper⟩,
   ⟨.order_id,
    "\\border\\s+(?:number\\s+|#\\s*|num\\s+)?(\\d\x7b4,12\x7d)\\b",
    true, 1, .prefixed "ORD-"⟩,
   ⟨.order_id, "(?<!\\w)#(\\d\x7b4,12\x7d)\\b", false, 1, .prefixed "#"⟩,
   ⟨.ticket_ref, "\\b(TKT[-_]?\\d\x7b3,10\x7d)\\b", true, 1, .upper⟩,
   ⟨.ticket_ref,
    "\\bticket\\s+(?:number\\s+|#\\s*|num\\s+)?(\\d\x7b3,10\x7d)\\b",
    true, 1, .prefixed "TKT-"⟩,
   ⟨.account_id, "\\b(ACCT[-_]?\\d\x7b3,12\x7d)\\b", true, 1, .upper⟩,
   ⟨.account_id,
    "\\baccount\\s+(?:number\\s+|#\\s*|id\\s*:?\\s*|num\\s+)?(\\d\x7b3,12\x7d)\\b",
    true, 1, .prefixed "ACCT-"⟩,
   ⟨.email, "\\b([a-zA-Z0-9._%+\\-]+@[a-zA-Z0-9.\\-]+\\.[a-zA-Z]\x7b2,\x7d)\\b", false, 1, .lower⟩,
   ⟨.amount, "([$€£¥₹]\\s*\\d+(?:[.,]\\d\x7b1,2\x7d)?)\\b", false, 1, .strip⟩,
   ⟨.amount,
    "\\b(\\d+(?:[.,]\\d\x7b1,2\x7d)?)\\s*(dollars?|USD|EUR|GBP|euros?|pounds?|INR)\\b",
    true, 0, .strip⟩,
   ⟨.date,
    "\\b((?:Jan(?:uary)?|Feb(?:ruary)?|Mar(?:ch)?|Apr(?:il)?|May|Jun(?:e)?|Jul(?:y)?|" ++
      "Aug(?:ust)?|Sep(?:tember)?|Oct(?:ober)?|Nov(?:ember)?|" ++
      "Dec(?:ember)?)\\s+\\d\x7b1,2\x7d(?:st|nd|rd|th)?(?:,?\\s*\\d\x7b4\x7d)?)\\b",
    true, 1, .strip⟩,
   ⟨.date,
    "\\b(\\d\x7b1,2\x7d[/\\-\\.]\\d\x7b1,2\x7d[/\\-\\.]\\d\x7b2,4\x7d)\\b",
    false, 1, .strip⟩,
   ⟨.date, "\\b(\\d\x7b4\x7d-\\d\x7b2\x7d-\\d\x7b2\x7d)\\b", false, 1, .strip⟩,
   ⟨.date,
    "\\b(yesterday|today|last\\s+(?:week|month|year|monday|tuesday|wednesday|thursday|" ++
      "friday|saturday|sunday)|this\\s+(?:morning|afternoon|evening|week|month)|" ++
      "\\d+\\s+(?:days?|weeks?|months?)\\s+ago|earlier\\s+today|just\\s+now|recently)\\b",
    true, 1, .lower⟩,
   ⟨.product, "(?:product|item|plan|package|feature)\\s+\"([^\"]\x7b2,60\x7d)\"", true, 1, .strip⟩,
   ⟨.product, "\"([A-Z][A-Za-z0-9\\s\\-\\.]\x7b2,40\x7d)\"", false, 1, .strip⟩]

def extractRule (message : String) (known : List Entity) (rule : EntityRule) : List Entity :=
  -- The entities of one rule, without those of the same type and value that are known.
  (regex.finditer rule.pattern rule.ignoreCase message).foldl
    (fun found candidate =>
      match if rule.value_group = 0 then some candidate.whole else candidate.group with
      | none => found
      | some raw =>
        let value := rule.normaliser.apply python raw
        if found.any fun entity => entity.entity_type = rule.entity_type ∧ entity.value = value then
          found
        else found ++ [{ entity_type := rule.entity_type, value, raw_match := candidate.whole }])
    known

def extractEntities (message : String) : List Entity :=
  entityRules.foldl (extractRule python regex message) []

def entityMap (entities : List Entity) : Dict (List String) :=
  entities.foldl
    (fun found entity => mergeEntities found [(entity.entity_type.value, [entity.value])]) []

inductive Severity where
  | calm
  | frustrated
  | angry
  | critical
  deriving DecidableEq, Repr

def Severity.value : Severity → String
  | .calm => "calm"
  | .frustrated => "frustrated"
  | .angry => "angry"
  | .critical => "critical"

structure EscalationSignal where
  should_escalate : Bool
  severity : Severity
  triggers : List String
  score : Rat
  escalation_message : Option String := none
  deriving DecidableEq, Repr

def criticalKeywords : List Rule :=
  [⟨"\\b(sue|lawsuit|legal\\s+action|attorney|lawyer|court|solicitor)\\b",
    50 / 100, "legal_threat"⟩,
   ⟨"\\b(fraud|fraudulent|scam|scammer|theft|stolen|chargeback)\\b", 45 / 100, "fraud_allegation"⟩,
   ⟨"\\b(threatening|going\\s+viral|media|press|news|social\\s+media|twitter|tweet)\\b",
    40 / 100, "public_threat"⟩]

def angerKeywords : List Rule :=
  [⟨"\\b(furious|livid|outraged|enraged|seething|exploding|screaming)\\b",
    40 / 100, "extreme_anger"⟩,
   ⟨"\\b(absolutely\\s+(?:furious|disgusted|appalled)|this\\s+is\\s+(?:outrageous|criminal|" ++
      "disgusting))\\b", 38 / 100, "extreme_frustration"⟩,
   ⟨"\\b(terrible|awful|horrible|worst|disaster|nightmare|shocking|appalling|atrocious)\\b",
    30 / 100, "strong_negative"⟩,
   ⟨"\\b(ridiculous|unacceptable|pathetic|incompetent|useless|rubbish|garbage|trash)\\b",
    28 / 100, "strong_complaint"⟩,
   ⟨"\\b(very\\s+(?:angry|upset|frustrated|unhappy)|extremely\\s+(?:frustrated|" ++
      "disappointed))\\b", 25 / 100, "explicit_anger"⟩,
   ⟨"\\b(disappointed|annoyed|frustrated|unhappy|not\\s+(?:happy|satisfied|pleased))\\b",
    15 / 100, "mild_frustration"⟩]

def abusiveKeywords : List Rule :=
  [⟨"\\b(idiot|moron|stupid|dumb|fool|incompetent\\s+(?:idiot|moron))\\b",
    45 / 100, "abusive_language"⟩]

def humanRequestPattern : String :=
  "\\b(speak\\s+to\\s+(?:a\\s+)?(?:human|agent|person|manager|supervisor)|" ++
    "talk\\s+to\\s+(?:a\\s+)?(?:human|real\\s+person|agent|someone)|" ++
    "connect\\s+me\\s+(?:to|with)\\s+(?:a\\s+)?(?:human|agent|person|manager)|" ++
    "I\\s+want\\s+(?:a\\s+)?(?:human|real\\s+person|live\\s+agent)|" ++
    "get\\s+me\\s+(?:a\\s+)?(?:human|manager|supervisor)|" ++
    "escalate\\s+(?:this|my\\s+(?:issue|case|ticket)))\\b"

def scoreEscalate : Rat := 50 / 100
def scoreCritical : Rat := 70 / 100
def scoreAngry : Rat := 50 / 100
def scoreFrustrated : Rat := 30 / 100
def unresolvedTurnsThreshold : Nat := 5
def intentRepeatThreshold : Nat := 3

def escalationMessage : Severity → String
  | .frustrated =>
    "I understand this has been frustrating and I'm sorry for the difficulty. Let me " ++
      "connect you with a human support agent who can give this the personal attention it " ++
      "deserves."
  | .angry =>
    "I sincerely apologise for the experience you've been having. I'm escalating this to a " ++
      "human agent right now so they can help you directly."
  | .critical =>
    "I'm truly sorry for the serious inconvenience this has caused. I'm immediately " ++
      "escalating this to our senior support team — someone will be with you shortly."
  | .calm =>
    "I'll connect you with a human support agent who can assist you further."

def scoreToSeverity (score : Rat) : Severity :=
  if scoreCritical ≤ score then .critical
  else if scoreAngry ≤ score then .angry
  else if scoreFrustrated ≤ score then .frustrated
  else .calm

def countIntentRepeats (intent : String) (history : List String) : Nat :=
  (history.drop (history.length - 2 * intentRepeatThreshold)).count intent

def addTrigger (triggers : List String) (label : String) : List String :=
  if label ∈ triggers then triggers else triggers ++ [label]

def hits (message : String) (rules : List Rule) : List Rule :=
  rules.filter fun rule => regex.search rule.pattern message

/-- `EscalationDetector.detect`: the state is the one at the start of the turn. -/
def detectEscalation (message : String) (state : ConversationState) (intent : IntentResult) :
    EscalationSignal :=
  if regex.search humanRequestPattern message then
    { should_escalate := true
      severity := .calm
      triggers := ["explicit_human_request"]
      score := 1
      escalation_message := some (escalationMessage .calm) }
  else
    let critical := hits regex message criticalKeywords
    let anger := hits regex message angerKeywords
    let abusive := hits regex message abusiveKeywords
    let triggers := ((critical ++ anger).map Rule.label).foldl addTrigger []
    if let some rule := abusive.head? then
      { should_escalate := true
        severity := .critical
        triggers := addTrigger triggers rule.label
        score := 1
        escalation_message := some (escalationMessage .critical) }
    else
      let score := critical.foldl (fun score rule => min 1 (score + rule.weight)) 0
      let score := min 1 (score + min (50 / 100) (anger.map Rule.weight).sum)
      let repeats := countIntentRepeats intent.intent.value state.intent_history
      let (score, triggers) :=
        if intentRepeatThreshold ≤ repeats then
          (min 1 (score + min (30 / 100)
              (10 / 100 * ((repeats : Rat) - intentRepeatThreshold + 1))),
            triggers ++ ["intent_repeated_" ++ toString repeats ++ "x"])
        else (score, triggers)
      let (score, triggers) :=
        if unresolvedTurnsThreshold ≤ state.unresolved_turns then
          (min 1 (score + min (20 / 100)
              (4 / 100 * ((state.unresolved_turns : Rat) - unresolvedTurnsThreshold + 1))),
            triggers ++ ["unresolved_" ++ toString state.unresolved_turns ++ "_turns"])
        else (score, triggers)
      let severity := scoreToSeverity score
      let should_escalate := decide (scoreEscalate ≤ score)
      { should_escalate
        severity
        triggers
        score := roundTo 4 score
        escalation_message := if should_escalate then some (escalationMessage severity) else none }

end Detection

end HelpForge.Chatbot
