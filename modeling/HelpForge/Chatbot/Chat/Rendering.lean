import HelpForge.Chatbot.Chat.Service
import HelpForge.Lib.Template

set_option autoImplicit false

namespace HelpForge.Chatbot

open Lib

/-- What the interpreter does with braces, letters and lists of strings. -/
structure WritesLists (python : Python) : Prop where
  braces : python.isalnum '\x7b' = false ∧ python.isalnum '\x7d' = false
  letters : ∀ char, char.isAlpha = true → python.isalnum char = true
  str_list : ∀ values : List String, python.str (.list (values.map .str)) =
    "[" ++ ", ".intercalate (values.map python.repr) ++ "]"
  repr_quoted : ∀ text, text.length + 2 ≤ (python.repr text).length

/-- A way to write values as plain text: one value is itself, and several take less room
than a list of them. -/
structure PlainText (python : Python) (plain : List String → String) : Prop where
  single : ∀ value, plain [value] = value
  shorter : ∀ values : List String, values ≠ [] →
    (plain values).length < (python.str (.list (values.map .str))).length

theorem WritesLists.braced {python : Python} (writes : WritesLists python) :
    Braced python.isWord where
  left := by simp [Python.isWord, writes.braces.1]
  right := by simp [Python.isWord, writes.braces.2]

namespace ChatService

variable (python : Python)

def lookedUp (vars : Dict String) (name : List Char) : Option (List Char) :=
  (vars.lookup (String.ofList name)).map String.toList

theorem filled_lookedUp (vars : Dict String) (name : List Char) :
    Lib.filled (lookedUp vars) name =
      ((vars.lookup (String.ofList name)).getD
        (String.ofList ('\x7b' :: name ++ ['\x7d']))).toList := by
  unfold Lib.filled lookedUp
  cases vars.lookup (String.ofList name) with
  | none => simp [quoted]
  | some value => rfl

/-- The scan keeps what it has read of a placeholder as `pending`. -/
theorem renderFrom_pending (braced : Braced python.isWord) (vars : Dict String)
    (text : List Char) :
    renderFrom python vars none text = substitute python.isWord (lookedUp vars) text ∧
      ∀ word : List Char, (∀ char ∈ word, python.isWord char = true) →
        renderFrom python vars (some word) text =
          substitute python.isWord (lookedUp vars) ('\x7b' :: (word ++ text)) := by
  induction text with
  | nil =>
    refine ⟨by rw [renderFrom, substitute], fun word word_ => ?_⟩
    rw [substitute_unclosed _ braced _ word_ (by simp) (.inr (by simp)), renderFrom, substitute,
      List.append_nil]
  | cons char rest ih =>
    have fresh := ih.2 [] (by simp)
    constructor
    · rw [renderFrom]
      split_ifs with open_
      · rw [open_]
        exact fresh
      · rw [substitute_other _ _ _ _ (placeholder_of_ne _ _ _ open_), ih.1]
    · intro word word_
      rw [renderFrom]
      split_ifs with inside closed open_
      · have longer := ih.2 (word ++ [char]) (by
          intro other member
          rcases List.mem_append.mp member with before | last
          · exact word_ other before
          · rwa [List.mem_singleton.mp last])
        rwa [List.append_assoc, List.singleton_append] at longer
      · have same := substitute_placeholder _ braced (lookedUp vars) ⟨closed.2, word_⟩ rest
        rw [quoted_append, filled_lookedUp] at same
        rw [closed.1, same, ih.1]
      · have unclosed : (char :: rest).head? ≠ some '\x7d' := fun same => by
          rw [open_] at same
          exact absurd (Option.some.inj same) (by decide)
        rw [substitute_unclosed _ braced _ word_ (by simp [inside]) (.inr unclosed), open_, fresh]
        rfl
      · have unclosed : word = [] ∨ (char :: rest).head? ≠ some '\x7d' := by
          by_cases empty : word = []
          · exact .inl empty
          · exact .inr fun same => closed ⟨Option.some.inj same, empty⟩
        rw [substitute_unclosed _ braced _ word_ (by simp [inside]) unclosed,
          substitute_other _ _ _ _ (placeholder_of_ne _ _ _ open_), ih.1]
        rfl

structure Lists (entities : List Entity) (found : Dict (List String)) : Prop where
  distinct : (found.map Prod.fst).Nodup
  types : ∀ key values, found.lookup key = some values →
    values ≠ [] ∧ ∃ entity ∈ entities, entity.entity_type.value = key
  all : ∀ entity ∈ entities, (found.lookup entity.entity_type.value).isSome = true

theorem addDistinct_ne_nil (known : List String) (value : String) :
    addDistinct known [value] ≠ [] := by
  unfold addDistinct
  simp only [List.foldl_cons, List.foldl_nil]
  split_ifs with there
  · exact List.ne_nil_of_mem there
  · simp

theorem entityMap_lists (entities : List Entity) : Lists entities (entityMap entities) := by
  induction entities using List.reverseRecOn with
  | nil => exact ⟨List.nodup_nil, nofun, nofun⟩
  | append_singleton earlier entity ih =>
    have grown : entityMap (earlier ++ [entity]) =
        Dict.put (entityMap earlier) entity.entity_type.value
          (addDistinct (((entityMap earlier).lookup entity.entity_type.value).getD [])
            [entity.value]) := by
      rw [entityMap, List.foldl_concat]
      rfl
    rw [grown]
    refine ⟨?_, fun key values found => ?_, fun other member => ?_⟩
    · exact Dict.nodup_merge (entityMap earlier) [(entity.entity_type.value,
        addDistinct (((entityMap earlier).lookup entity.entity_type.value).getD [])
          [entity.value])] ih.distinct
    · rw [Dict.lookup_put] at found
      split_ifs at found with same
      · cases found
        exact ⟨addDistinct_ne_nil _ _, entity, by simp, same.symm⟩
      · obtain ⟨some_, other, member, type⟩ := ih.types key values found
        exact ⟨some_, other, List.mem_append_left _ member, type⟩
    · rw [Dict.lookup_put]
      split_ifs with same
      · rfl
      · rcases List.mem_append.mp member with before | last
        · exact ih.all other before
        · exact absurd (by rw [List.mem_singleton.mp last]) same

theorem lookup_mapped {α β : Type} (view : α → β) (entries : Dict α) (key : String) :
    (entries.map fun entry => (entry.1, view entry.2)).lookup key =
      (entries.lookup key).map view := by
  induction entries with
  | nil => rfl
  | cons entry rest ih =>
    rw [List.map_cons, Dict.lookup_entry, Dict.lookup_entry, ih]
    split_ifs <;> rfl

/-- An extracted entity as its values are written, any other name as its field of the
context. -/
def placeholderValue (written : List String → String) (entities : Dict (List String))
    (context : Dict Value) (name : List Char) : Option (List Char) :=
  match entities.lookup (String.ofList name) with
  | some values => some (written values).toList
  | none => (context.lookup (String.ofList name)).map fun value => (python.str value).toList

def listText (values : List String) : String := python.str (.list (values.map .str))

theorem lookedUp_templateVars (entities : Dict (List String)) (context : Dict Value)
    (distinct : (entities.map Prod.fst).Nodup) :
    lookedUp (templateVars python entities context) =
      placeholderValue python (listText python) entities context := by
  funext name
  have merged := Dict.lookup_merge (context.map fun entry => (entry.1, python.str entry.2))
    (entities.map fun entry => (entry.1, listText python entry.2)) (String.ofList name)
  have keys : ((entities.map fun entry => (entry.1, listText python entry.2)).map
      Prod.fst).Nodup := by
    rw [List.map_map]
    exact distinct
  rw [Dict.merge_new [] _ keys (by simp), List.nil_append, lookup_mapped, lookup_mapped] at merged
  unfold lookedUp templateVars placeholderValue
  change Option.map String.toList ((Dict.merge _ (entities.map fun entry =>
    (entry.1, listText python entry.2))).lookup (String.ofList name)) = _
  rw [merged]
  cases entities.lookup (String.ofList name) with
  | some values => rfl
  | none =>
    cases context.lookup (String.ofList name) <;> rfl

def ownTemplate (request : ChatRequest) (intent : Intent) : String :=
  "template:" ++ request.org_id ++ ":" ++ intent.value

def globalTemplate (intent : Intent) : String := "template:global:" ++ intent.value

/-- A template with this text is kept under the key. -/
def Stored (outside : ChatSurroundings) (key text : String) : Prop :=
  ∃ raw, outside.template key = .ok (some raw) ∧
    templateText python raw = .ok (some (.str text))

/-- The organisation's own template, or the global one where there is none of its own. -/
def Chosen (outside : ChatSurroundings) (own shared key text : String) : Prop :=
  (key = own ∧ Stored python outside own text) ∨
    (key = shared ∧ Stored python outside shared text ∧ ∀ other, ¬ Stored python outside own other)

theorem render_eq_ok (template : Value) (vars : Dict String) (response : String)
    (rendered : render python template vars = .ok response) :
    ∃ text, template = .str text ∧
      response = String.ofList (renderFrom python vars none text.toList) := by
  cases template with
  | str text => exact ⟨text, rfl, (Except.ok.inj rendered).symm⟩
  | none => cases rendered
  | bool value => cases rendered
  | int value => cases rendered
  | float value => cases rendered
  | nonFinite name => cases rendered
  | list items => cases rendered
  | dict entries => cases rendered

theorem findTemplate_cons (outside : ChatSurroundings) (vars : Dict String) (key : String)
    (rest : List String) (hit : TemplateMatch)
    (found : findTemplate python outside vars (key :: rest) = .ok (some hit)) :
    (∃ text, Stored python outside key text ∧ hit.template_key = key ∧
        hit.response = String.ofList (renderFrom python vars none text.toList)) ∨
      (∀ text, ¬ Stored python outside key text) ∧
        findTemplate python outside vars rest = .ok (some hit) := by
  rw [findTemplate] at found
  cases read : outside.template key with
  | error failure =>
    rw [read] at found
    cases found
  | ok stored =>
    cases stored with
    | none =>
      rw [read] at found
      refine .inr ⟨fun text ⟨raw, there, _⟩ => ?_, found⟩
      cases read.symm.trans there
    | some raw =>
      rw [read] at found
      obtain ⟨template, parsed, found⟩ := (bind_eq_ok _ _ _).mp found
      cases template with
      | none =>
        refine .inr ⟨fun text ⟨other, there, parsed'⟩ => ?_, found⟩
        cases read.symm.trans there
        cases parsed.symm.trans parsed'
      | some template =>
        obtain ⟨response, rendered, found⟩ := (bind_eq_ok _ _ _).mp found
        obtain ⟨text, rfl, rfl⟩ := render_eq_ok python template vars response rendered
        cases found
        exact .inl ⟨text, ⟨raw, read, parsed⟩, rfl, rfl⟩

theorem matchTemplate_chosen (outside : ChatSurroundings) (request : ChatRequest)
    (intent : IntentResult) (entities : Dict (List String)) (context : Dict Value)
    (hit : TemplateMatch)
    (found : matchTemplate python outside request.org_id intent entities context =
      .ok (some hit)) :
    ∃ text, Chosen python outside (ownTemplate request intent.intent)
        (globalTemplate intent.intent) hit.template_key text ∧
      hit.response =
        String.ofList (renderFrom python (templateVars python entities context) none
          text.toList) := by
  unfold matchTemplate at found
  split_ifs at found
  · cases found
  · rcases findTemplate_cons _ _ _ _ _ _ found with ⟨text, stored, key, response⟩ | ⟨unstored, found⟩
    · exact ⟨text, .inl ⟨key, stored⟩, response⟩
    · rcases findTemplate_cons _ _ _ _ _ _ found with ⟨text, stored, key, response⟩ | ⟨_, found⟩
      · exact ⟨text, .inr ⟨key, stored, unstored⟩, response⟩
      · cases found

theorem entityType_name (writes : WritesLists python) (type : EntityType) :
    IsName python.isWord type.value.toList := by
  have chars : type.value.toList ≠ [] ∧
      type.value.toList.all (fun char => char.isAlpha || char == '_') = true := by
    cases type <;> exact ⟨by decide, by decide⟩
  refine ⟨chars.1, fun char member => ?_⟩
  rcases Bool.or_eq_true_iff.mp (List.all_eq_true.mp chars.2 char member) with letter | underscore
  · simp [Python.isWord, writes.letters char letter]
  · simp [Python.isWord, beq_iff_eq.mp underscore]

/-- The rendered text has every value as plain text exactly where the template names no
type of which the message has an entity. -/
theorem rendered_plainly_iff (writes : WritesLists python) (plain : List String → String)
    (plainly : PlainText python plain) (entities : List Entity) (context : Dict Value)
    (text : List Char) :
    renderFrom python (templateVars python (entityMap entities) context) none text =
        substitute python.isWord (placeholderValue python plain (entityMap entities) context) text ↔
      ∀ entity ∈ entities, ¬ HasPlaceholder text entity.entity_type.value.toList := by
  have lists := entityMap_lists entities
  rw [(renderFrom_pending python writes.braced _ text).1,
    lookedUp_templateVars python _ context lists.distinct]
  have atMost : ∀ name, (Lib.filled (placeholderValue python plain (entityMap entities) context)
      name).length ≤ (Lib.filled (placeholderValue python (listText python) (entityMap entities)
        context) name).length := by
    intro name
    unfold Lib.filled placeholderValue
    cases found : (entityMap entities).lookup (String.ofList name) with
    | none => exact Nat.le_refl _
    | some values =>
      have less := plainly.shorter values (lists.types _ _ found).1
      simp only [Option.getD_some, String.length_toList]
      exact Nat.le_of_lt less
  constructor
  · intro same entity member has
    obtain ⟨values, found⟩ := Option.isSome_iff_exists.mp (lists.all entity member)
    have less := plainly.shorter values (lists.types _ _ found).1
    have longer : (Lib.filled (placeholderValue python plain (entityMap entities) context)
        entity.entity_type.value.toList).length <
          (Lib.filled (placeholderValue python (listText python) (entityMap entities) context)
            entity.entity_type.value.toList).length := by
      unfold Lib.filled placeholderValue
      rw [String.ofList_toList, found]
      simpa only [Option.getD_some, String.length_toList, listText] using less
    have lengths := substitute_longer _ writes.braced _ _ text _
      (entityType_name python writes entity.entity_type) has longer fun name _ => atMost name
    rw [same] at lengths
    exact Nat.lt_irrefl _ lengths
  · intro unnamed
    refine substitute_congr _ _ _ text fun name _ has => ?_
    unfold Lib.filled placeholderValue
    cases found : (entityMap entities).lookup (String.ofList name) with
    | none => rfl
    | some values =>
      obtain ⟨_, entity, member, type⟩ := lists.types _ _ found
      refine absurd has ?_
      have named := unnamed entity member
      rwa [type, String.toList_ofList] at named

theorem joined_plain (writes : WritesLists python) : PlainText python (", ".intercalate ·) where
  single value := String.intercalate_singleton
  shorter values some_ := by
    have atMost : ∀ values : List String, (", ".intercalate values).length ≤
        (", ".intercalate (values.map python.repr)).length := by
      intro values
      induction values with
      | nil => simp
      | cons value rest ih =>
        have here := writes.repr_quoted value
        cases rest with
        | nil =>
          simp only [List.map_cons, List.map_nil, String.intercalate_singleton]
          omega
        | cons second others =>
          simp only [List.map_cons, String.intercalate_cons_cons, String.length_append] at ih ⊢
          omega
    have less := atMost values
    rw [writes.str_list, String.length_append, String.length_append]
    have bracket : "[".length = 1 := rfl
    omega

theorem examine_entities (regex : Regex) (outside : ChatSurroundings) (request : ChatRequest)
    (state reached : WidgetState) (findings : Findings)
    (examined : (examine python regex outside request).run state = (.ok findings, reached)) :
    findings.entities = entityMap (extractEntities python regex request.message) := by
  obtain ⟨found, one, _, examined⟩ := (Program.bind_ok ..).mp examined
  obtain ⟨intent, two, _, examined⟩ := (Program.bind_ok ..).mp examined
  cases examined
  rfl

theorem recordTurn_ok (request : ChatRequest) (findings : Findings) (agent_action : String)
    (state : WidgetState) : ∃ reached,
      (recordTurn request findings agent_action).run state = (.ok (), reached) := by
  unfold recordTurn ConversationStateStore.update
  rw [Program.run_recover]
  split
  next value reached _ => exact ⟨reached, rfl⟩
  next failure reached _ => exact ⟨reached, rfl⟩

theorem answerFromTemplate_message (request : ChatRequest) (findings : Findings)
    (hit : TemplateMatch) (state : WidgetState) :
    ∃ response reached, (answerFromTemplate request findings hit).run state =
      (.ok response, reached) ∧ response.message = hit.response := by
  obtain ⟨reached, recorded⟩ := recordTurn_ok request findings "respond" state
  unfold answerFromTemplate
  rw [Program.run_bind, recorded]
  exact ⟨_, _, rfl, rfl⟩

theorem template_answer (regex : Regex) (outside : ChatSurroundings) (request : ChatRequest)
    (state : ChatState) (findings : Findings) (reached : WidgetState)
    (examined : (examine python regex outside request).run state.service = (.ok findings, reached))
    (calm : findings.escalation.should_escalate = false) (hit : TemplateMatch)
    (found : matchTemplate python outside request.org_id findings.intent findings.entities
      (buildTicketContext request) = .ok (some hit)) :
    ∃ response final, (handleMessage python regex outside request).run state =
      (.ok response, final) ∧ response.message = hit.response := by
  obtain ⟨response, last, answered, message⟩ :=
    answerFromTemplate_message request findings hit reached
  refine ⟨response, { state with service := last }, ?_, message⟩
  rw [handleMessage, Program.run_bind, run_onService, examined]
  simp only [calm, Bool.false_eq_true, if_false]
  rw [Program.run_bind, Program.run_done, found]
  simp only
  rw [run_onService, answered]

/-- On a template hit the customer gets the chosen template with every value as plain text
exactly where it names no type of which the message has an entity. -/
theorem template_answer_plain_iff (writes : WritesLists python) (plain : List String → String)
    (plainly : PlainText python plain) (regex : Regex) (outside : ChatSurroundings)
    (request : ChatRequest) (state : ChatState) (findings : Findings) (reached : WidgetState)
    (examined : (examine python regex outside request).run state.service = (.ok findings, reached))
    (calm : findings.escalation.should_escalate = false) (hit : TemplateMatch)
    (found : matchTemplate python outside request.org_id findings.intent findings.entities
      (buildTicketContext request) = .ok (some hit)) :
    ∃ response final text,
      (handleMessage python regex outside request).run state = (.ok response, final) ∧
      Chosen python outside (ownTemplate request findings.intent.intent)
        (globalTemplate findings.intent.intent) hit.template_key text ∧
      (response.message.toList = substitute python.isWord
          (placeholderValue python plain findings.entities (buildTicketContext request))
          text.toList ↔
        ∀ entity ∈ extractEntities python regex request.message,
          ¬ HasPlaceholder text.toList entity.entity_type.value.toList) := by
  obtain ⟨text, chosen, rendered⟩ := matchTemplate_chosen python outside request _ _ _ hit found
  have entities := examine_entities python regex outside request _ _ findings examined
  have plainly_ := rendered_plainly_iff python writes plain plainly
    (extractEntities python regex request.message) (buildTicketContext request) text.toList
  obtain ⟨response, final, answered, message⟩ :=
    template_answer python regex outside request state findings reached examined calm hit found
  refine ⟨response, final, text, answered, chosen, ?_⟩
  rw [entities] at rendered ⊢
  rw [message, rendered, String.toList_ofList]
  exact plainly_

/-- An interpreter of ASCII that writes lists, and is given one template to read. -/
def templatePython (response : String) : Python :=
  { Python.reading (.dict [("response", .str response)]) with
    str := fun value =>
      match value with
      | .list items => "[" ++ ", ".intercalate (items.map fun item =>
          match item with
          | .str text => "'" ++ text ++ "'"
          | _ => "") ++ "]"
      | .str text => text
      | _ => "" }

variable (response : String)

theorem templatePython_writes : WritesLists (templatePython response) where
  braces := by
    constructor <;> rfl
  letters char letter := by simp [templatePython, Python.reading, Char.isAlphanum, letter]
  str_list values := by simp [templatePython, Python.reading, Function.comp_def]
  repr_quoted text := by
    have quote : "'".length = 1 := rfl
    simp only [templatePython, Python.reading, String.length_append]
    omega

/-- The patterns find a question about the status, and one order. -/
def orderRegex : Regex where
  search pattern _ := intentPatterns.any fun entry =>
    entry.1 = .status_check && entry.2.head?.any fun rule => rule.pattern = pattern
  finditer pattern _ _ :=
    if entityRules.head?.any fun rule => rule.pattern = pattern then
      [⟨"ORD-12345", some "ORD-12345"⟩]
    else []

def orderRequest : ChatRequest where
  org_id := "acme"
  ticket_id := "t_1"
  message := "Where is my order ORD-12345?"
  window := default_window

def ownTemplates : ChatSurroundings where
  generate _ _ := .error ⟨"ConnectionError", "no model"⟩
  gateway _ := .error ⟨"ConnectionError", "no gateway"⟩
  template key := .ok (if key = "template:acme:status_check" then some "template" else none)

def orderFindings (response : String) : Findings where
  state := {}
  intent := { intent := .status_check, confidence := 92 / 100, sub_intent := some "status_query" }
  entities := entityMap (extractEntities (templatePython response) orderRegex orderRequest.message)
  escalation := detectEscalation orderRegex orderRequest.message {}
    { intent := .status_check, confidence := 92 / 100, sub_intent := some "status_query" }

theorem order_examined :
    (examine (templatePython response) orderRegex ownTemplates orderRequest).run {} =
      (.ok (orderFindings response), {}) := by
  have ruled : ruleBased orderRegex orderRequest.message = some
      { intent := .status_check, confidence := 92 / 100, sub_intent := some "status_query" } := by
    decide +kernel
  unfold examine detectIntent
  rw [ruled]
  rfl

theorem order_calm : (orderFindings response).escalation.should_escalate = false := by
  have score : (detectEscalation orderRegex orderRequest.message {}
    { intent := .status_check, confidence := 92 / 100,
      sub_intent := some "status_query" }).should_escalate = false := by decide +kernel
  exact score

def orderHit (response : String) : TemplateMatch where
  response := String.ofList (renderFrom (templatePython response)
    (templateVars (templatePython response) (orderFindings response).entities
      (buildTicketContext orderRequest)) none response.toList)
  template_key := "template:acme:status_check"

theorem order_matched :
    matchTemplate (templatePython response) ownTemplates orderRequest.org_id
        (orderFindings response).intent (orderFindings response).entities
        (buildTicketContext orderRequest) =
      .ok (some (orderHit response)) := by
  have sure : ¬ (orderFindings response).intent.confidence < templateConfidenceThreshold := by
    change ¬ (92 / 100 : Rat) < 80 / 100
    decide +kernel
  have key : ownTemplate orderRequest .status_check = "template:acme:status_check" := by decide
  unfold matchTemplate
  rw [if_neg sure]
  change findTemplate _ _ _ [ownTemplate orderRequest .status_check, _] = _
  rw [key]
  rfl

/-- Without the number of the order the answer is the template. -/
theorem unnamed_order_plain :
    ∃ response final text,
      (handleMessage (templatePython "Your order is on its way.") orderRegex ownTemplates
        orderRequest).run {} = (.ok response, final) ∧
      Chosen (templatePython "Your order is on its way.") ownTemplates
        (ownTemplate orderRequest .status_check) (globalTemplate .status_check)
        "template:acme:status_check" text ∧
      (response.message.toList = substitute (templatePython "Your order is on its way.").isWord
          (placeholderValue (templatePython "Your order is on its way.") (", ".intercalate ·)
            (orderFindings "Your order is on its way.").entities
            (buildTicketContext orderRequest)) text.toList ↔
        ∀ entity ∈ extractEntities (templatePython "Your order is on its way.") orderRegex
            orderRequest.message,
          ¬ HasPlaceholder text.toList entity.entity_type.value.toList) :=
  template_answer_plain_iff _ (templatePython_writes _) _ (joined_plain _ (templatePython_writes _))
    orderRegex ownTemplates orderRequest {} (orderFindings _) {} (order_examined _) (order_calm _)
    (orderHit _) (order_matched _)

theorem order_substituted :
    substitute (templatePython "Your order \x7border_id\x7d is on its way.").isWord
        (placeholderValue (templatePython "Your order \x7border_id\x7d is on its way.")
          (", ".intercalate ·) (orderFindings "Your order \x7border_id\x7d is on its way.").entities
          (buildTicketContext orderRequest))
        "Your order \x7border_id\x7d is on its way.".toList =
      "Your order ORD-12345 is on its way.".toList := by
  have writes := templatePython_writes "Your order \x7border_id\x7d is on its way."
  have parts : "Your order \x7border_id\x7d is on its way.".toList =
      "Your order ".toList ++ (quoted EntityType.order_id.value.toList ++
        (" is on its way.".toList ++ [])) := by decide
  rw [parts, substitute_plain _ _ _ _ (by decide),
    substitute_placeholder _ writes.braced _ (entityType_name _ writes .order_id),
    substitute_plain _ _ _ _ (by decide), substitute]
  decide +kernel

/-- With it the customer reads a list of one number. -/
theorem named_order_listed :
    ∃ response final,
      (handleMessage (templatePython "Your order \x7border_id\x7d is on its way.") orderRegex
        ownTemplates orderRequest).run {} = (.ok response, final) ∧
      response.message = "Your order ['ORD-12345'] is on its way." ∧
      response.message.toList ≠
        substitute (templatePython "Your order \x7border_id\x7d is on its way.").isWord
          (placeholderValue (templatePython "Your order \x7border_id\x7d is on its way.")
            (", ".intercalate ·) (orderFindings "Your order \x7border_id\x7d is on its way.").entities
            (buildTicketContext orderRequest))
          "Your order \x7border_id\x7d is on its way.".toList := by
  obtain ⟨response, final, answered, message⟩ := template_answer _ orderRegex ownTemplates
    orderRequest {} (orderFindings _) {} (order_examined _) (order_calm _) (orderHit _)
    (order_matched "Your order \x7border_id\x7d is on its way.")
  have shown : (orderHit "Your order \x7border_id\x7d is on its way.").response =
      "Your order ['ORD-12345'] is on its way." := by decide +kernel
  refine ⟨response, final, answered, message.trans shown, ?_⟩
  rw [message, shown, order_substituted]
  decide

end ChatService

end HelpForge.Chatbot
