import HelpForge.Chatbot.Rag.Router

set_option autoImplicit false

namespace HelpForge.Chatbot

namespace QueryRouter

variable (python : Python) (regex : Regex) (model : LanguageModel)

def matchesRule (rules : List RouteRule) (query : String) : Bool :=
  rules.any fun rule => regex.search rule.pattern (stripped query)

def short (query : String) : Bool :=
  (stripped query).length ≤ 8 && !regex.search complaintSignals (stripped query)

structure WellRouted (query : String) (route : RouteResult) : Prop where
  uses_rag : route.use_rag = false ↔ route.query_type = .small_talk ∨ route.query_type = .action
  small_talk : route.query_type = .small_talk → route.canned_response.isSome = true
  action : route.query_type = .action → ∃ key response, route.extracted_action = some key ∧
    actionResponses.lookup key = some response ∧ route.canned_response = some response
  requested : matchesRule regex actionRules query = true →
    matchesRule regex smallTalkRules query = false → route.query_type = .action

/-- A request for an action that is as short as small talk. -/
def Swallowed (query : String) : Prop :=
  short regex query = true ∧ matchesRule regex actionRules query = true ∧
    matchesRule regex smallTalkRules query = false

/-- No rule tells, and the model takes the message for what has a canned answer. -/
def Unvoiced (org_id query : String) : Prop :=
  short regex query = false ∧ matchesRule regex smallTalkRules query = false ∧
    matchesRule regex actionRules query = false ∧
    regex.search complaintSignals (stripped query) = false ∧
    regex.search faqSignals (stripped query) = false ∧
    ∃ answer, model.generate (routerRequest org_id query) = .ok answer ∧
      (python.lower (stripped answer.content) = "small_talk" ∨
        python.lower (stripped answer.content) = "action")

variable {python regex model} {org_id query : String} {rules : List RouteRule}

theorem find_of_matchesRule (hit : matchesRule regex rules query = true) :
    ∃ rule ∈ rules,
      rules.find? (fun rule => regex.search rule.pattern (stripped query)) = some rule := by
  obtain ⟨rule, among, met⟩ := List.any_eq_true.mp hit
  cases found : rules.find? fun rule => regex.search rule.pattern (stripped query) with
  | none => exact absurd met (List.find?_eq_none.mp found rule among)
  | some first => exact ⟨first, List.mem_of_find?_eq_some found, rfl⟩

theorem find_of_unmatched (missed : matchesRule regex rules query = false) :
    rules.find? (fun rule => regex.search rule.pattern (stripped query)) = none := by
  rw [List.find?_eq_none]
  intro rule among
  have unmet := List.any_eq_false.mp missed rule among
  exact unmet

theorem action_response (rule : RouteRule) (among : rule ∈ actionRules) :
    ∃ response, actionResponses.lookup rule.outcome = some response := by
  have answered : ∀ rule ∈ actionRules, (actionResponses.lookup rule.outcome).isSome = true := by
    decide
  exact Option.isSome_iff_exists.mp (answered rule among)

theorem ruleBased_short (brief : short regex query = true) :
    ruleBased regex query = some {
      query_type := .small_talk, intent := "short_input", confidence := 75 / 100
      use_rag := false, canned_response := some shortInputResponse } := by
  have both : (stripped query).length ≤ 8 ∧
      regex.search complaintSignals (stripped query) = false := by
    simpa [short] using brief
  simp only [ruleBased, both, and_self, if_true]

section Long

variable (long : short regex query = false)

include long

theorem not_brief : ¬((stripped query).length ≤ 8 ∧
    regex.search complaintSignals (stripped query) = false) := by
  rintro ⟨brief, calm⟩
  simp [short, brief, calm] at long

theorem ruleBased_talk (talk : matchesRule regex smallTalkRules query = true) :
    ∃ rule ∈ smallTalkRules, ruleBased regex query = some {
      query_type := .small_talk, intent := rule.intent, confidence := 95 / 100
      use_rag := false, canned_response := some rule.outcome } := by
  obtain ⟨rule, among, found⟩ := find_of_matchesRule talk
  refine ⟨rule, among, ?_⟩
  simp only [ruleBased, not_brief long, if_false, found]

variable (silent : matchesRule regex smallTalkRules query = false)

include silent

theorem ruleBased_action (request : matchesRule regex actionRules query = true) :
    ∃ rule ∈ actionRules, ruleBased regex query = some {
      query_type := .action, intent := rule.intent, confidence := 90 / 100
      use_rag := false, canned_response := actionResponses.lookup rule.outcome
      extracted_action := some rule.outcome } := by
  obtain ⟨rule, among, found⟩ := find_of_matchesRule request
  refine ⟨rule, among, ?_⟩
  simp only [ruleBased, not_brief long, if_false, find_of_unmatched silent, found]

theorem ruleBased_rest (unrequested : matchesRule regex actionRules query = false) :
    ruleBased regex query =
      if regex.search complaintSignals (stripped query) then
        some { query_type := .complaint, intent := "problem_report", confidence := 80 / 100,
               use_rag := true }
      else if regex.search faqSignals (stripped query) then
        some { query_type := .faq, intent := "how_to", confidence := 75 / 100, use_rag := true }
      else none := by
  simp only [ruleBased, not_brief long, if_false, find_of_unmatched silent,
    find_of_unmatched unrequested]

end Long

variable (query_type : QueryType) (confidence : Rat)

theorem makeRouteResult_type :
    (makeRouteResult query_type confidence).query_type = query_type := rfl

theorem makeRouteResult_routed_iff (unrequested : matchesRule regex actionRules query = false) :
    WellRouted regex query (makeRouteResult query_type confidence) ↔
      query_type ≠ .small_talk ∧ query_type ≠ .action := by
  constructor
  · intro routed
    constructor
    · rintro rfl
      have spoken := routed.small_talk rfl
      cases spoken
    · rintro rfl
      obtain ⟨key, response, extracted, -⟩ := routed.action rfl
      cases extracted
  · rintro ⟨talk, action⟩
    constructor
    · cases query_type <;> simp [makeRouteResult] at *
    · exact fun same => absurd same talk
    · exact fun same => absurd same action
    · intro request
      rw [unrequested] at request
      cases request

def queryTypes : List QueryType := [.small_talk, .action, .faq, .complaint, .unknown]

theorem named_iff (wanted : QueryType) (known : wanted ≠ .unknown) (raw : String) :
    (queryTypes.find? fun query_type => query_type.value = raw).getD .unknown = wanted ↔
      raw = wanted.value := by
  constructor
  · intro same
    cases found : queryTypes.find? fun query_type => query_type.value = raw with
    | none =>
      rw [found] at same
      exact absurd same.symm known
    | some query_type =>
      rw [found] at same
      have named : query_type.value = raw := by simpa using List.find?_some found
      rw [← named, ← same, Option.getD_some]
  · rintro rfl
    cases wanted <;> decide

theorem llmClassify_type_iff (wanted : QueryType) (known : wanted ≠ .unknown) :
    (llmClassify python model org_id query).query_type = wanted ↔
      ∃ answer, model.generate (routerRequest org_id query) = .ok answer ∧
        python.lower (stripped answer.content) = wanted.value := by
  unfold llmClassify
  cases answered : model.generate (routerRequest org_id query) with
  | error error => simp [makeRouteResult_type, Ne.symm known]
  | ok answer =>
    have named := named_iff wanted known (python.lower (stripped answer.content))
    simpa [makeRouteResult_type, queryTypes] using named

theorem llmClassify_made : ∃ query_type confidence,
    llmClassify python model org_id query = makeRouteResult query_type confidence := by
  unfold llmClassify
  split
  · exact ⟨_, _, rfl⟩
  · exact ⟨_, _, rfl⟩

theorem llmClassify_routed_iff (unrequested : matchesRule regex actionRules query = false) :
    WellRouted regex query (llmClassify python model org_id query) ↔
      ¬∃ answer, model.generate (routerRequest org_id query) = .ok answer ∧
        (python.lower (stripped answer.content) = "small_talk" ∨
          python.lower (stripped answer.content) = "action") := by
  have talk := @llmClassify_type_iff python model org_id query .small_talk nofun
  have action := @llmClassify_type_iff python model org_id query .action nofun
  obtain ⟨query_type, confidence, made⟩ := @llmClassify_made python model org_id query
  rw [made, makeRouteResult_type] at talk action
  rw [made, makeRouteResult_routed_iff query_type confidence unrequested, ne_eq, ne_eq, talk,
    action]
  constructor
  · rintro ⟨untold, unasked⟩ ⟨answer, answered, told | asked⟩
    · exact untold ⟨answer, answered, told⟩
    · exact unasked ⟨answer, answered, asked⟩
  · intro neither
    constructor
    · rintro ⟨answer, answered, told⟩
      exact neither ⟨answer, answered, .inl told⟩
    · rintro ⟨answer, answered, asked⟩
      exact neither ⟨answer, answered, .inr asked⟩

theorem classify_ruled {route : RouteResult} (ruled : ruleBased regex query = some route) :
    classify python regex model org_id query = route := by
  rw [classify, ruled, Option.getD_some]

theorem uses_rag_routed {query_type : QueryType} {intent : String} {confidence : Rat}
    (rag : query_type ≠ .small_talk ∧ query_type ≠ .action)
    (unrequested : matchesRule regex actionRules query = false) :
    WellRouted regex query { query_type, intent, confidence, use_rag := true } := by
  constructor
  · simp [rag]
  · exact fun same => absurd same rag.1
  · exact fun same => absurd same rag.2
  · intro request
    rw [unrequested] at request
    cases request

theorem short_routed_iff (brief : short regex query = true) :
    WellRouted regex query (classify python regex model org_id query) ↔
      ¬(matchesRule regex actionRules query = true ∧
        matchesRule regex smallTalkRules query = false) := by
  rw [classify_ruled (ruleBased_short brief)]
  constructor
  · rintro routed ⟨request, silent⟩
    cases routed.requested request silent
  · intro unswallowed
    constructor
    · simp
    · simp
    · simp
    · intro request silent
      exact absurd ⟨request, silent⟩ unswallowed

theorem talk_routed (long : short regex query = false)
    (talk : matchesRule regex smallTalkRules query = true) :
    WellRouted regex query (classify python regex model org_id query) := by
  obtain ⟨rule, -, ruled⟩ := ruleBased_talk long talk
  rw [classify_ruled ruled]
  constructor
  · simp
  · simp
  · simp
  · simp [talk]

theorem action_routed (long : short regex query = false)
    (silent : matchesRule regex smallTalkRules query = false)
    (request : matchesRule regex actionRules query = true) :
    WellRouted regex query (classify python regex model org_id query) := by
  obtain ⟨rule, among, ruled⟩ := ruleBased_action long silent request
  obtain ⟨response, answered⟩ := action_response rule among
  rw [classify_ruled ruled]
  constructor
  · simp
  · simp
  · intro _
    exact ⟨rule.outcome, response, rfl, answered, answered⟩
  · simp

/-- A route is well formed, and an action is taken as one, but for a request as short as small
talk and for a message that only the model takes for small talk or an action. -/
theorem routed_iff (python : Python) (regex : Regex) (model : LanguageModel)
    (org_id query : String) :
    WellRouted regex query (classify python regex model org_id query) ↔
      ¬Swallowed regex query ∧ ¬Unvoiced python regex model org_id query := by
  unfold Swallowed Unvoiced
  by_cases brief : short regex query = true
  · rw [short_routed_iff brief]
    simp only [brief, true_and, Bool.true_eq_false, false_and, not_false_eq_true, and_true]
  have long := Bool.eq_false_iff.mpr brief
  by_cases talk : matchesRule regex smallTalkRules query = true
  · have routed := @talk_routed python regex model org_id query long talk
    simp [routed, long, talk]
  have silent := Bool.eq_false_iff.mpr talk
  by_cases request : matchesRule regex actionRules query = true
  · have routed := @action_routed python regex model org_id query long silent request
    simp [routed, long, request]
  -- From here on no rule with a canned answer applies, and at last the model is asked.
  have unrequested := Bool.eq_false_iff.mpr request
  have rest := ruleBased_rest long silent unrequested
  simp only [long, silent, unrequested, true_and, and_true, Bool.false_eq_true, false_and,
    not_false_eq_true]
  by_cases complaint : regex.search complaintSignals (stripped query) = true
  · rw [if_pos complaint] at rest
    rw [classify_ruled rest]
    simp only [complaint, Bool.true_eq_false, false_and, not_false_eq_true, iff_true]
    exact uses_rag_routed (by decide) unrequested
  rw [if_neg complaint] at rest
  by_cases question : regex.search faqSignals (stripped query) = true
  · rw [if_pos question] at rest
    rw [classify_ruled rest]
    simp only [question, Bool.true_eq_false, false_and, and_false, not_false_eq_true, iff_true]
    exact uses_rag_routed (by decide) unrequested
  rw [if_neg question] at rest
  have undecided : classify python regex model org_id query =
      llmClassify python model org_id query := by
    rw [classify, rest, Option.getD_none]
  rw [undecided, llmClassify_routed_iff unrequested]
  simp only [Bool.eq_false_iff.mpr complaint, Bool.eq_false_iff.mpr question, true_and]

/-- A pattern that finds the word of the first rule for actions. -/
def escalates : Regex where
  search pattern _ := actionRules.head?.any fun rule => rule.pattern == pattern
  finditer _ _ _ := []

theorem escalate_swallowed :
    ¬∀ (python : Python) (model : LanguageModel),
      WellRouted escalates "escalate" (classify python escalates model "acme" "escalate") := by
  intro routed
  have brief : short escalates "escalate" = true := by decide +kernel
  have request : matchesRule escalates actionRules "escalate" = true := by decide +kernel
  have silent : matchesRule escalates smallTalkRules "escalate" = false := by decide +kernel
  have action := (routed (.reading .none) { respond := fun _ => none }).requested request silent
  rw [classify_ruled (ruleBased_short brief)] at action
  cases action

end QueryRouter

end HelpForge.Chatbot
