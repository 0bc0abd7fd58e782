import HelpForge.Chatbot.Python

set_option autoImplicit false

namespace HelpForge.Chatbot

inductive Verb where
  | get
  | post
  | put
  deriving DecidableEq, Repr

structure GatewayCall where
  method : Verb
  path : String
  json : Option (Dict Value) := none
  params : Option (Dict Value) := none

def GatewayCall.orgId (call : GatewayCall) : Option Value :=
  (call.json.or call.params).bind fun sent => sent.lookup "orgId"

namespace ActionGateway

def base : String := "/api/ai/internal/agent"

def ticketPath (ticket_id : String) : String := base ++ "/tickets/" ++ ticket_id

def createTicket (org_id subject description priority category : String) : GatewayCall where
  method := .post
  path := base ++ "/tickets"
  json := some [("orgId", .str org_id), ("subject", .str subject),
    ("description", .str description), ("priority", .str priority), ("category", .str category)]

def updateTicket (ticket_id org_id : String) (updates : Dict Value) : GatewayCall where
  method := .put
  path := ticketPath ticket_id
  json := some (Dict.merge [("orgId", .str org_id)] updates)

def fetchTicket (ticket_id org_id : String) : GatewayCall where
  method := .get
  path := ticketPath ticket_id
  params := some [("orgId", .str org_id)]

def assignAgent (ticket_id org_id agent_id reason : String) : GatewayCall where
  method := .post
  path := ticketPath ticket_id ++ "/assign"
  json := some [("orgId", .str org_id), ("agentId", .str agent_id), ("reason", .str reason)]

def escalateTicket (ticket_id org_id reason urgency : String) : GatewayCall where
  method := .post
  path := ticketPath ticket_id ++ "/escalate"
  json := some [("orgId", .str org_id), ("reason", .str reason), ("urgency", .str urgency)]

def summarizeTicket (ticket_id org_id : String) : GatewayCall where
  method := .post
  path := ticketPath ticket_id ++ "/summarize"
  json := some [("orgId", .str org_id)]

def classifyTicket (ticket_id org_id : String) : GatewayCall where
  method := .post
  path := ticketPath ticket_id ++ "/classify"
  json := some [("orgId", .str org_id)]

def searchDocs (org_id query : String) (top_k : Int) : GatewayCall where
  method := .post
  path := base ++ "/search"
  json := some [("orgId", .str org_id), ("query", .str query), ("topK", .int top_k)]

end ActionGateway

def fits (least : Nat) (most : Option Nat) (text : String) : Option String :=
  if least ≤ text.length ∧ most.all (text.length ≤ ·) then some text else none

/-- `str = Field(min_length=least, max_length=most)`. -/
def requiredText (input : Dict Value) (key : String) (least : Nat) (most : Option Nat) :
    Option String := do
  fits least most (← (← input.lookup key).asStr)

/-- `str = Field(default=default, max_length=most)`. -/
def defaultedText (input : Dict Value) (key default : String) (most : Option Nat) :
    Option String :=
  match input.lookup key with
  | none => some default
  | some value => do fits 0 most (← value.asStr)

/-- `Optional[str] = Field(default=None, max_length=most)`. -/
def optionalText (input : Dict Value) (key : String) (most : Option Nat) :
    Option (Option String) :=
  match input.lookup key with
  | none => some none
  | some .none => some none
  | some value => do return some (← fits 0 most (← value.asStr))

/-- `Optional[List[str]] = None`. -/
def optionalTexts (input : Dict Value) (key : String) : Option (Option (List String)) :=
  match input.lookup key with
  | none => some none
  | some .none => some none
  | some (.list items) => do return some (← items.mapM Value.asStr)
  | some _ => none

/-- A validator that capitalises a word and asks for it among `words`. -/
def capital (words : List String) (text : String) : Option String :=
  if upper text ∈ words then some (upper text) else none

/-- `str = Field(default=default)` with such a validator. -/
def defaultedCapital (words : List String) (input : Dict Value) (key default : String) :
    Option String :=
  match input.lookup key with
  | none => some default
  | some value => do capital words (← value.asStr)

def validPriorities : List String := ["LOW", "MEDIUM", "HIGH", "URGENT"]
def validStatuses : List String := ["OPEN", "IN_PROGRESS", "RESOLVED", "CLOSED", "ON_HOLD"]
def validUrgency : List String := ["LOW", "NORMAL", "HIGH", "CRITICAL"]
def maxTopK : Int := 10

structure ToolExecutionError where
  tool : String
  reason : String
  retriable : Bool
  deriving DecidableEq, Repr

inductive ToolCost where
  | low
  | medium
  | high
  deriving DecidableEq, Repr

def ToolCost.value : ToolCost → String
  | .low => "LOW"
  | .medium => "MEDIUM"
  | .high => "HIGH"

structure ToolRequest where
  call : GatewayCall
  outcome : Value → Except PyError (Dict Value)

inductive ToolStatus where
  | active
  | degraded
  | disabled
  deriving DecidableEq, Repr

structure Tool where
  name : String
  description : String
  cost : ToolCost
  -- The names of the fields that are shown to the model.
  input_fields : List String
  prepare : Python → Dict Value → Except ToolExecutionError ToolRequest

def ToolStatus.tag : ToolStatus → String
  | .active => "✓ ACTIVE"
  | .degraded => "⚠ DEGRADED"
  | .disabled => "✗ DISABLED"

def Tool.toPromptDescription (tool : Tool) (status : ToolStatus) : String :=
  "- " ++ tool.name ++ "(" ++ ", ".intercalate tool.input_fields ++ "): " ++ tool.description ++
    "  [" ++ status.tag ++ "] [cost:" ++ tool.cost.value ++ "]"

def validated {α : Type} (name : String) (read : Python → Dict Value → Option α)
    (request : α → Except ToolExecutionError ToolRequest) (python : Python) (input : Dict Value) :
    Except ToolExecutionError ToolRequest :=
  -- An input that its schema does not accept is an error that no retry can mend.
  match read python input with
  | some inp => request inp
  | none => .error ⟨name, "Invalid input: " ++ python.validationText name input, false⟩

structure TicketInput where
  ticket_id : String
  org_id : String

def readTicketInput (_ : Python) (input : Dict Value) : Option TicketInput := do
  let ticket_id ← requiredText input "ticket_id" 1 none
  let org_id ← requiredText input "org_id" 1 none
  return { ticket_id, org_id }

def success (entries : Dict Value) : Dict Value := ("success", .bool true) :: entries

structure CreateTicketInput where
  org_id : String
  subject : String
  description : String
  priority : String
  category : String

def createTicketTool : Tool where
  name := "create_ticket"
  description := "Create a new support ticket on behalf of a user"
  cost := .medium
  input_fields := ["org_id", "subject", "description", "priority", "category"]
  prepare := validated "create_ticket" read fun inp => .ok
    { call := ActionGateway.createTicket inp.org_id inp.subject inp.description inp.priority
        inp.category
      outcome := fun result => do
        let id ← result.get "id" .none
        return success [("ticket_id", id), ("ticket", result)] }
where
  read (_ : Python) (input : Dict Value) : Option CreateTicketInput := do
    let org_id ← requiredText input "org_id" 1 none
    let subject ← requiredText input "subject" 1 (some 200)
    let description ← requiredText input "description" 1 (some 2000)
    let priority ← defaultedCapital validPriorities input "priority" "MEDIUM"
    let category ← defaultedText input "category" "General" (some 100)
    return { org_id, subject, description, priority, category }

structure UpdateTicketInput extends TicketInput where
  status : Option String
  priority : Option String
  tags : Option (List String)
  category : Option String
  note : Option String

def UpdateTicketInput.updates (inp : UpdateTicketInput) : Dict Value :=
  (inp.status.map fun text => ("status", Value.str text)).toList ++
    (inp.priority.map fun text => ("priority", Value.str text)).toList ++
    (inp.tags.map fun tags => ("tags", Value.list (tags.map .str))).toList ++
    (inp.category.map fun text => ("category", Value.str text)).toList ++
    (inp.note.map fun text => ("agentNote", Value.str text)).toList

def updateTicketTool : Tool where
  name := "update_ticket"
  description := "Update an existing ticket's status, priority, tags, or category"
  cost := .low
  input_fields := ["ticket_id", "org_id", "status", "priority", "tags", "category", "note"]
  prepare := validated "update_ticket" read fun inp =>
    if inp.updates.isEmpty then .error ⟨"update_ticket", "No update fields provided", false⟩
    else .ok
      { call := ActionGateway.updateTicket inp.ticket_id inp.org_id inp.updates
        outcome := fun result => .ok (success
          [("ticket_id", .str inp.ticket_id),
            ("updated_fields", .list (inp.updates.map fun field => .str field.1)),
            ("ticket", result)]) }
where
  read (python : Python) (input : Dict Value) : Option UpdateTicketInput := do
    let ticket ← readTicketInput python input
    let status ← word validStatuses (← optionalText input "status" none)
    let priority ← word validPriorities (← optionalText input "priority" none)
    let tags ← optionalTexts input "tags"
    let category ← optionalText input "category" none
    let note ← optionalText input "note" (some 500)
    return { ticket with status, priority, tags, category, note }
  word (words : List String) : Option String → Option (Option String)
    | none => some none
    | some text => (capital words text).map some

def fetchTicketTool : Tool where
  name := "fetch_ticket"
  description := "Retrieve full ticket details including all comments and metadata"
  cost := .low
  input_fields := ["ticket_id", "org_id"]
  prepare := validated "fetch_ticket" readTicketInput fun inp => .ok
    { call := ActionGateway.fetchTicket inp.ticket_id inp.org_id
      outcome := fun ticket => do
        let comments ← ticket.get "comments" (.list [])
        let _ ← comments.len
        return success [("ticket", ticket)] }

structure AssignAgentInput extends TicketInput where
  agent_id : String
  reason : Option String

def assignAgentTool : Tool where
  name := "assign_agent"
  description := "Assign a support ticket to a specific human agent"
  cost := .low
  input_fields := ["ticket_id", "org_id", "agent_id", "reason"]
  prepare := validated "assign_agent" read fun inp => .ok
    { call := ActionGateway.assignAgent inp.ticket_id inp.org_id inp.agent_id (inp.reason.getD "")
      outcome := fun result => .ok (success
        [("ticket_id", .str inp.ticket_id), ("assigned_to", .str inp.agent_id),
          ("result", result)]) }
where
  read (python : Python) (input : Dict Value) : Option AssignAgentInput := do
    let ticket ← readTicketInput python input
    let agent_id ← requiredText input "agent_id" 1 none
    let reason ← optionalText input "reason" (some 300)
    return { ticket with agent_id, reason }

structure EscalateTicketInput extends TicketInput where
  reason : String
  urgency : String

def escalateTicketTool : Tool where
  name := "escalate_ticket"
  description := "Escalate a ticket to senior support with a reason and urgency level"
  cost := .medium
  input_fields := ["ticket_id", "org_id", "reason", "urgency"]
  prepare := validated "escalate_ticket" read fun inp => .ok
    { call := ActionGateway.escalateTicket inp.ticket_id inp.org_id inp.reason inp.urgency
      outcome := fun result => .ok (success
        [("ticket_id", .str inp.ticket_id), ("urgency", .str inp.urgency), ("result", result)]) }
where
  read (python : Python) (input : Dict Value) : Option EscalateTicketInput := do
    let ticket ← readTicketInput python input
    let reason ← requiredText input "reason" 5 (some 500)
    let urgency ← defaultedCapital validUrgency input "urgency" "NORMAL"
    return { ticket with reason, urgency }

structure SearchDocsInput where
  org_id : String
  query : String
  top_k : Int

/-- `[Doc i] …`, with the first 400 characters of a document. -/
def excerpt (python : Python) (number : Nat) (doc : Value) : Except PyError String := do
  let text ← doc.get "text" (.str "")
  let shown ← match ← doc.get "excerpt" text with
    | .str text => .ok (String.ofList (text.toList.take 400))
    | .list items => .ok (python.str (.list (items.take 400)))
    | .dict _ => .error ⟨"KeyError", "slice(None, 400, None)"⟩
    | other => .error ⟨"TypeError", "'" ++ other.typeName ++ "' object is not subscriptable"⟩
  return "[Doc " ++ toString number ++ "] " ++ shown

def searchDocsTool : Tool where
  name := "search_docs"
  description := "Search the organisation's knowledge base for relevant documents"
  cost := .medium
  input_fields := ["org_id", "query", "top_k"]
  prepare python := validated "search_docs" read (fun inp => .ok
    { call := ActionGateway.searchDocs inp.org_id inp.query inp.top_k
      outcome := fun result => do
        let docs ← result.get "results" (.list [])
        let count ← docs.len
        let excerpts ← (docs.members.zipIdx 1).mapM fun entry => excerpt python entry.2 entry.1
        return success
          [("query", .str inp.query), ("result_count", .int count), ("results", docs),
            ("context", .str ("\n\n".intercalate excerpts))] }) python
where
  read (python : Python) (input : Dict Value) : Option SearchDocsInput := do
    let org_id ← requiredText input "org_id" 1 none
    let query ← requiredText input "query" 3 (some 500)
    let top_k ← topK python (input.lookup "top_k")
    return { org_id, query, top_k }
  topK (python : Python) : Option Value → Option Int
    | none => some 5
    | some value => (python.laxInt value).filter fun count => 1 ≤ count ∧ count ≤ maxTopK

def summarizeTicketTool : Tool where
  name := "summarize_ticket"
  description := "Generate a concise summary of a ticket's full conversation history"
  cost := .high
  input_fields := ["ticket_id", "org_id"]
  prepare := validated "summarize_ticket" readTicketInput fun inp => .ok
    { call := ActionGateway.summarizeTicket inp.ticket_id inp.org_id
      outcome := fun result => do
        let summary ← result.get "summary" (.str "")
        let _ ← summary.len
        return success [("ticket_id", .str inp.ticket_id), ("summary", summary)] }

def classifyTicketTool : Tool where
  name := "classify_ticket"
  description := "Classify a ticket's category, sub-category, and severity using AI"
  cost := .high
  input_fields := ["ticket_id", "org_id"]
  prepare := validated "classify_ticket" readTicketInput fun inp => .ok
    { call := ActionGateway.classifyTicket inp.ticket_id inp.org_id
      outcome := fun result => do
        let category ← result.get "category" .none
        let sub_category ← result.get "subCategory" .none
        let severity ← result.get "severity" .none
        return success
          [("ticket_id", .str inp.ticket_id), ("category", category),
            ("sub_category", sub_category), ("severity", severity), ("classification", result)] }

def allTools : List Tool :=
  [createTicketTool, updateTicketTool, fetchTicketTool, assignAgentTool, escalateTicketTool,
    searchDocsTool, summarizeTicketTool, classifyTicketTool]

def findTool (name : String) : Option Tool := allTools.find? fun tool => tool.name = name

theorem requiredText_ok (input : Dict Value) (key : String) (least : Nat) (most : Option Nat)
    (text : String) (read : requiredText input key least most = some text) :
    input.lookup key = some (.str text) := by
  obtain ⟨value, found, read⟩ := Option.bind_eq_some_iff.mp read
  obtain ⟨inner, isText, fitted⟩ := Option.bind_eq_some_iff.mp read
  have same : inner = text := by
    unfold fits at fitted
    split_ifs at fitted
    exact Option.some.inj fitted
  cases value <;> simp_all [Value.asStr]

theorem readTicketInput_org (python : Python) (input : Dict Value) (inp : TicketInput)
    (read : readTicketInput python input = some inp) :
    input.lookup "org_id" = some (.str inp.org_id) := by
  obtain ⟨ticket_id, -, read⟩ := Option.bind_eq_some_iff.mp read
  obtain ⟨org_id, org, read⟩ := Option.bind_eq_some_iff.mp read
  cases read
  exact requiredText_ok input "org_id" 1 none org_id org

theorem UpdateTicketInput.orgId_updateTicket (inp : UpdateTicketInput) :
    (ActionGateway.updateTicket inp.ticket_id inp.org_id inp.updates).orgId =
      some (.str inp.org_id) := by
  have absent : ∀ entry ∈ inp.updates, entry.1 ≠ "orgId" := by
    intro entry member
    simp only [updates, List.mem_append, Option.mem_toList,
      Option.map_eq_some_iff] at member
    obtain (((⟨_, -, rfl⟩ | ⟨_, -, rfl⟩) | ⟨_, -, rfl⟩) | ⟨_, -, rfl⟩) | ⟨_, -, rfl⟩ := member <;>
      simp
  exact Dict.lookup_merge_absent _ _ _ absent

/-- The tool asks the gateway for the organisation that its input names, its own checks
are not retried, and it accepts an empty answer. -/
structure Tool.Regular (tool : Tool) : Prop where
  org : ∀ python input request, tool.prepare python input = .ok request →
    ∃ org, input.lookup "org_id" = some (.str org) ∧ request.call.orgId = some (.str org)
  final : ∀ python input error, tool.prepare python input = .error error → error.retriable = false
  accepts : ∀ python input request, tool.prepare python input = .ok request →
    ∃ result, request.outcome (.dict []) = .ok result

section Regular

variable {α : Type} {name description : String} {cost : ToolCost} {fields : List String}
  {read : Python → Dict Value → Option α}

theorem regular_validated {request : Python → α → Except ToolExecutionError ToolRequest}
    (org_id : α → String)
    (reads : ∀ python input inp, read python input = some inp →
      input.lookup "org_id" = some (.str (org_id inp)))
    (requests : ∀ python inp made, request python inp = .ok made →
      made.call.orgId = some (.str (org_id inp)) ∧
        ∃ result, made.outcome (.dict []) = .ok result)
    (final : ∀ python inp error, request python inp = .error error → error.retriable = false) :
    Tool.Regular ⟨name, description, cost, fields, fun python =>
      validated name read (request python) python⟩ where
  org := by
    intro python input made prepared
    dsimp only [validated] at prepared
    split at prepared
    next inp accepted =>
      exact ⟨org_id inp, reads python input inp accepted, (requests python inp made prepared).1⟩
    next => cases prepared
  final := by
    intro python input error prepared
    dsimp only [validated] at prepared
    split at prepared
    next inp accepted => exact final python inp error prepared
    next => cases prepared; rfl
  accepts := by
    intro python input made prepared
    dsimp only [validated] at prepared
    split at prepared
    next inp accepted => exact (requests python inp made prepared).2
    next => cases prepared

end Regular

theorem createTicketTool_regular : createTicketTool.Regular := by
  refine regular_validated CreateTicketInput.org_id ?_ ?_ nofun
  · intro python input inp read
    obtain ⟨org_id, org, read⟩ := Option.bind_eq_some_iff.mp read
    have kept : org_id = inp.org_id := by
      simp only [bind, pure, Option.bind_eq_some_iff] at read
      obtain ⟨_, -, _, -, _, -, _, -, made⟩ := read
      rw [← Option.some.inj made]
    rw [← kept]
    exact requiredText_ok input "org_id" 1 none org_id org
  · rintro python inp made ⟨⟩
    exact ⟨rfl, _, rfl⟩

theorem updateTicketTool_regular : updateTicketTool.Regular := by
  refine regular_validated (fun inp : UpdateTicketInput => inp.org_id) ?_ ?_ ?_
  · intro python input inp read
    obtain ⟨ticket, named, read⟩ := Option.bind_eq_some_iff.mp read
    have kept : ticket = inp.toTicketInput := by
      simp only [bind, pure, Option.bind_eq_some_iff] at read
      obtain ⟨_, -, _, -, _, -, _, -, _, -, _, -, _, -, made⟩ := read
      rw [← Option.some.inj made]
    rw [← kept]
    exact readTicketInput_org python input ticket named
  · intro python inp made requested
    split at requested
    next => cases requested
    next => cases requested; exact ⟨inp.orgId_updateTicket, _, rfl⟩
  · intro python inp error requested
    split at requested
    next => cases requested; rfl
    next => cases requested

theorem assignAgentTool_regular : assignAgentTool.Regular := by
  refine regular_validated (fun inp : AssignAgentInput => inp.org_id) ?_ ?_ nofun
  · intro python input inp read
    obtain ⟨ticket, named, read⟩ := Option.bind_eq_some_iff.mp read
    have kept : ticket = inp.toTicketInput := by
      simp only [bind, pure, Option.bind_eq_some_iff] at read
      obtain ⟨_, -, _, -, made⟩ := read
      rw [← Option.some.inj made]
    rw [← kept]
    exact readTicketInput_org python input ticket named
  · rintro python inp made ⟨⟩
    exact ⟨rfl, _, rfl⟩

theorem escalateTicketTool_regular : escalateTicketTool.Regular := by
  refine regular_validated (fun inp : EscalateTicketInput => inp.org_id) ?_ ?_ nofun
  · intro python input inp read
    obtain ⟨ticket, named, read⟩ := Option.bind_eq_some_iff.mp read
    have kept : ticket = inp.toTicketInput := by
      simp only [bind, pure, Option.bind_eq_some_iff] at read
      obtain ⟨_, -, _, -, made⟩ := read
      rw [← Option.some.inj made]
    rw [← kept]
    exact readTicketInput_org python input ticket named
  · rintro python inp made ⟨⟩
    exact ⟨rfl, _, rfl⟩

theorem searchDocsTool_regular : searchDocsTool.Regular := by
  refine regular_validated SearchDocsInput.org_id ?_ ?_ nofun
  · intro python input inp read
    obtain ⟨org_id, org, read⟩ := Option.bind_eq_some_iff.mp read
    have kept : org_id = inp.org_id := by
      simp only [bind, pure, Option.bind_eq_some_iff] at read
      obtain ⟨_, -, _, -, made⟩ := read
      rw [← Option.some.inj made]
    rw [← kept]
    exact requiredText_ok input "org_id" 1 none org_id org
  · rintro python inp made ⟨⟩
    exact ⟨rfl, _, rfl⟩

theorem fetchTicketTool_regular : fetchTicketTool.Regular :=
  regular_validated TicketInput.org_id readTicketInput_org
    (by rintro python inp made ⟨⟩; exact ⟨rfl, _, rfl⟩) nofun

theorem summarizeTicketTool_regular : summarizeTicketTool.Regular :=
  regular_validated TicketInput.org_id readTicketInput_org
    (by rintro python inp made ⟨⟩; exact ⟨rfl, _, rfl⟩) nofun

theorem classifyTicketTool_regular : classifyTicketTool.Regular :=
  regular_validated TicketInput.org_id readTicketInput_org
    (by rintro python inp made ⟨⟩; exact ⟨rfl, _, rfl⟩) nofun

theorem findTool_regular (name : String) (tool : Tool) (found : findTool name = some tool) :
    tool.Regular ∧ tool.name = name := by
  refine ⟨?_, by simpa using List.find?_some found⟩
  have listed := List.mem_of_find?_eq_some found
  simp only [allTools, List.mem_cons, List.not_mem_nil, or_false] at listed
  rcases listed with rfl | rfl | rfl | rfl | rfl | rfl | rfl | rfl
  · exact createTicketTool_regular
  · exact updateTicketTool_regular
  · exact fetchTicketTool_regular
  · exact assignAgentTool_regular
  · exact escalateTicketTool_regular
  · exact searchDocsTool_regular
  · exact summarizeTicketTool_regular
  · exact classifyTicketTool_regular

end HelpForge.Chatbot
