import HelpForge.Chatbot.Conversation.Detectors
import HelpForge.Chatbot.Conversation.Turns
import Mathlib.Algebra.Order.BigOperators.Group.List
import Mathlib.Data.Rat.Floor
import Mathlib.Tactic.FieldSimp
import Mathlib.Tactic.Linarith
import Mathlib.Tactic.NormNum

set_option autoImplicit false

namespace HelpForge.Chatbot

theorem min_add_min (first second : Rat) (nonneg : 0 ≤ second) :
    min 1 (min 1 first + second) = min 1 (first + second) := by
  rcases le_total first 1 with small | large
  · rw [min_eq_right small]
  · rw [min_eq_left large, min_eq_left (by linarith), min_eq_left (by linarith)]

theorem clamped_weights (rules : List Rule) (start : Rat)
    (nonneg : ∀ rule ∈ rules, 0 ≤ rule.weight) :
    rules.foldl (fun score rule => min 1 (score + rule.weight)) (min 1 start) =
      min 1 (start + (rules.map Rule.weight).sum) := by
  induction rules generalizing start with
  | nil => simp
  | cons rule rest ih =>
    have first := min_add_min start rule.weight (nonneg rule (List.mem_cons_self ..))
    have later := ih (start + rule.weight) fun other member =>
      nonneg other (List.mem_cons_of_mem _ member)
    simp only [List.foldl_cons, List.map_cons, List.sum_cons]
    rw [first, later, add_assoc]

def Hundredths (value : Rat) : Prop := ∃ count : Int, value = count / 100

theorem Hundredths.add {first second : Rat} (one : Hundredths first) (other : Hundredths second) :
    Hundredths (first + second) := by
  obtain ⟨count, rfl⟩ := one
  obtain ⟨count', rfl⟩ := other
  refine ⟨count + count', ?_⟩
  push_cast
  ring

theorem Hundredths.min {first second : Rat} (one : Hundredths first) (other : Hundredths second) :
    Hundredths (Min.min first second) := by
  rcases min_choice first second with same | same <;> rw [same]
  · exact one
  · exact other

theorem hundredths_nat_mul (parts count : Nat) : Hundredths ((parts : Rat) / 100 * count) := by
  refine ⟨parts * count, ?_⟩
  push_cast
  ring

theorem hundredths_sum (weights : List Rat) (whole : ∀ weight ∈ weights, Hundredths weight) :
    Hundredths weights.sum := by
  induction weights with
  | nil => exact ⟨0, by simp⟩
  | cons weight rest ih =>
    have later := ih fun other member => whole other (List.mem_cons_of_mem _ member)
    simpa using (whole weight (List.mem_cons_self ..)).add later

theorem roundTo_hundredths (value : Rat) (whole : Hundredths value) : roundTo 4 value = value := by
  obtain ⟨count, rfl⟩ := whole
  have scaled : (count : Rat) / 100 * 10 ^ 4 = ((100 * count : Int) : Rat) := by
    push_cast
    ring
  unfold roundTo
  simp only [scaled, Rat.floor_intCast, sub_self]
  rw [if_pos (by norm_num)]
  push_cast
  ring

variable (regex : Regex) (message : String)

def matchedWeight (rules : List Rule) : Rat := ((hits regex message rules).map Rule.weight).sum

def repeatScore (repeats : Nat) : Rat :=
  if intentRepeatThreshold ≤ repeats then
    min (30 / 100) (10 / 100 * ((repeats : Rat) - intentRepeatThreshold + 1))
  else 0

def unresolvedScore (turns : Nat) : Rat :=
  if unresolvedTurnsThreshold ≤ turns then
    min (20 / 100) (4 / 100 * ((turns : Rat) - unresolvedTurnsThreshold + 1))
  else 0

def signalSum (state : ConversationState) (intent : IntentResult) : Rat :=
  matchedWeight regex message criticalKeywords +
    min (50 / 100) (matchedWeight regex message angerKeywords) +
    repeatScore (countIntentRepeats intent.intent.value state.intent_history) +
    unresolvedScore state.unresolved_turns

def AsksHuman : Prop := regex.search humanRequestPattern message = true

def Abusive : Prop := ∃ rule ∈ abusiveKeywords, regex.search rule.pattern message = true

theorem keyword_weights : ∀ rule ∈ criticalKeywords ++ angerKeywords,
    0 ≤ rule.weight ∧ Hundredths rule.weight := by
  have parts : ∀ rule ∈ criticalKeywords ++ angerKeywords,
      rule.weight ∈ ([50, 45, 40, 38, 30, 28, 25, 15] : List Nat).map fun count : Nat =>
        (count : Rat) / 100 := by
    decide +kernel
  intro rule member
  obtain ⟨count, _, same⟩ := List.mem_map.mp (parts rule member)
  rw [← same]
  exact ⟨by positivity, count, by push_cast; ring⟩

variable (rules : List Rule)

theorem hits_subset : ∀ rule ∈ hits regex message rules, rule ∈ rules :=
  fun _ member => List.mem_of_mem_filter member

theorem hundredths_matched (weights : ∀ rule ∈ rules, 0 ≤ rule.weight ∧ Hundredths rule.weight) :
    0 ≤ matchedWeight regex message rules ∧ Hundredths (matchedWeight regex message rules) := by
  have matched : ∀ weight ∈ (hits regex message rules).map Rule.weight,
      0 ≤ weight ∧ Hundredths weight := by
    intro weight member
    obtain ⟨rule, hit, rfl⟩ := List.mem_map.mp member
    exact weights rule (hits_subset regex message rules rule hit)
  exact ⟨List.sum_nonneg fun weight member => (matched weight member).1,
    hundredths_sum _ fun weight member => (matched weight member).2⟩

theorem critical_matched : 0 ≤ matchedWeight regex message criticalKeywords ∧
    Hundredths (matchedWeight regex message criticalKeywords) :=
  hundredths_matched regex message _ fun rule member =>
    keyword_weights rule (List.mem_append_left _ member)

theorem anger_matched : 0 ≤ matchedWeight regex message angerKeywords ∧
    Hundredths (matchedWeight regex message angerKeywords) :=
  hundredths_matched regex message _ fun rule member =>
    keyword_weights rule (List.mem_append_right _ member)

variable (repeats : Nat)

theorem repeatScore_eq :
    repeatScore repeats = min (30 / 100) (10 / 100 * ((repeats - 2 : Nat) : Rat)) := by
  unfold repeatScore intentRepeatThreshold
  split_ifs with reached
  · obtain ⟨more, rfl⟩ := Nat.exists_eq_add_of_le reached
    have less : 3 + more - 2 = more + 1 := by omega
    rw [less]
    push_cast
    congr 2
    ring
  · have none_ : repeats - 2 = 0 := by omega
    rw [none_]
    norm_num

theorem unresolvedScore_eq (turns : Nat) :
    unresolvedScore turns = min (20 / 100) (4 / 100 * ((turns - 4 : Nat) : Rat)) := by
  unfold unresolvedScore unresolvedTurnsThreshold
  split_ifs with reached
  · obtain ⟨more, rfl⟩ := Nat.exists_eq_add_of_le reached
    have less : 5 + more - 4 = more + 1 := by omega
    rw [less]
    push_cast
    congr 2
    ring
  · have none_ : turns - 4 = 0 := by omega
    rw [none_]
    norm_num

theorem repeatScore_nonneg : 0 ≤ repeatScore repeats := by
  rw [repeatScore_eq]
  positivity

theorem unresolvedScore_nonneg (turns : Nat) : 0 ≤ unresolvedScore turns := by
  rw [unresolvedScore_eq]
  positivity

theorem repeatScore_mono {repeats more : Nat} (le : repeats ≤ more) :
    repeatScore repeats ≤ repeatScore more := by
  have counted : ((repeats - 2 : Nat) : Rat) ≤ ((more - 2 : Nat) : Rat) := by
    exact_mod_cast Nat.sub_le_sub_right le 2
  rw [repeatScore_eq, repeatScore_eq]
  exact min_le_min_left _ (by linarith)

theorem unresolvedScore_mono {turns more : Nat} (le : turns ≤ more) :
    unresolvedScore turns ≤ unresolvedScore more := by
  have counted : ((turns - 4 : Nat) : Rat) ≤ ((more - 4 : Nat) : Rat) := by
    exact_mod_cast Nat.sub_le_sub_right le 4
  rw [unresolvedScore_eq, unresolvedScore_eq]
  exact min_le_min_left _ (by linarith)

variable (state : ConversationState) (intent : IntentResult)

theorem signalSum_nonneg : 0 ≤ signalSum regex message state intent := by
  have critical := (critical_matched regex message).1
  have anger := le_min (by norm_num : (0 : Rat) ≤ 50 / 100) (anger_matched regex message).1
  have repeats := repeatScore_nonneg (countIntentRepeats intent.intent.value state.intent_history)
  have unresolved := unresolvedScore_nonneg state.unresolved_turns
  unfold signalSum
  linarith

theorem signalSum_hundredths : Hundredths (min 1 (signalSum regex message state intent)) := by
  have critical := (critical_matched regex message).2
  have anger := Hundredths.min (⟨50, by norm_num⟩ : Hundredths (50 / 100)) (anger_matched regex message).2
  have repeats : Hundredths
      (repeatScore (countIntentRepeats intent.intent.value state.intent_history)) := by
    rw [repeatScore_eq]
    exact Hundredths.min (⟨30, by norm_num⟩ : Hundredths (30 / 100)) (hundredths_nat_mul 10 _)
  have unresolved : Hundredths (unresolvedScore state.unresolved_turns) := by
    rw [unresolvedScore_eq]
    exact Hundredths.min (⟨20, by norm_num⟩ : Hundredths (20 / 100)) (hundredths_nat_mul 4 _)
  exact Hundredths.min (⟨100, by norm_num⟩ : Hundredths 1) (((critical.add anger).add repeats).add unresolved)

theorem detectEscalation_human (asks : AsksHuman regex message) :
    (detectEscalation regex message state intent).should_escalate = true ∧
      (detectEscalation regex message state intent).score = 1 := by
  unfold AsksHuman at asks
  simp [detectEscalation, asks]

theorem hits_abusive (abusive : Abusive regex message) :
    ∃ rule rest, hits regex message abusiveKeywords = rule :: rest := by
  obtain ⟨rule, member, hit⟩ := abusive
  have there : rule ∈ hits regex message abusiveKeywords := List.mem_filter.mpr ⟨member, hit⟩
  exact List.exists_cons_of_ne_nil (List.ne_nil_of_mem there)

theorem detectEscalation_abusive (abusive : Abusive regex message) :
    (detectEscalation regex message state intent).should_escalate = true ∧
      (detectEscalation regex message state intent).score = 1 := by
  obtain ⟨rule, rest, hit⟩ := hits_abusive regex message abusive
  unfold detectEscalation
  by_cases asks : regex.search humanRequestPattern message = true
  · simp [asks]
  · simp [asks, hit]

def runningScore (base : Rat) (repeats turns : Nat) : Rat :=
  let score :=
    if intentRepeatThreshold ≤ repeats then
      min 1 (base + min (30 / 100) (10 / 100 * ((repeats : Rat) - intentRepeatThreshold + 1)))
    else base
  if unresolvedTurnsThreshold ≤ turns then
    min 1 (score + min (20 / 100) (4 / 100 * ((turns : Rat) - unresolvedTurnsThreshold + 1)))
  else score

theorem runningScore_eq (base : Rat) (repeats turns : Nat) :
    runningScore (min 1 base) repeats turns =
      min 1 (base + repeatScore repeats + unresolvedScore turns) := by
  have repeated : (if intentRepeatThreshold ≤ repeats then
      min 1 (min 1 base + min (30 / 100)
        (10 / 100 * ((repeats : Rat) - intentRepeatThreshold + 1))) else min 1 base) =
      min 1 (base + repeatScore repeats) := by
    rw [← min_add_min _ _ (repeatScore_nonneg repeats)]
    unfold repeatScore
    split_ifs <;> simp
  unfold runningScore
  rw [repeated, ← min_add_min _ _ (unresolvedScore_nonneg turns)]
  unfold unresolvedScore
  split_ifs <;> simp

theorem keywordScore_eq :
    min 1 ((hits regex message criticalKeywords).foldl
        (fun score rule => min 1 (score + rule.weight)) 0 +
      min (50 / 100) ((hits regex message angerKeywords).map Rule.weight).sum) =
    min 1 (matchedWeight regex message criticalKeywords +
      min (50 / 100) (matchedWeight regex message angerKeywords)) := by
  have critical := clamped_weights (hits regex message criticalKeywords) 0 fun rule member =>
    (keyword_weights rule (List.mem_append_left _ (hits_subset _ _ _ rule member))).1
  rw [min_eq_right (zero_le_one' Rat), zero_add] at critical
  rw [critical]
  exact min_add_min _ _ (le_min (by norm_num) (anger_matched regex message).1)

theorem detectEscalation_scored (intent : IntentResult) (calm : ¬ AsksHuman regex message)
    (civil : ¬ Abusive regex message) :
    ∃ triggers, detectEscalation regex message state intent =
      { should_escalate := decide (scoreEscalate ≤ min 1 (signalSum regex message state intent))
        severity := scoreToSeverity (min 1 (signalSum regex message state intent))
        triggers
        score := min 1 (signalSum regex message state intent)
        escalation_message :=
          if decide (scoreEscalate ≤ min 1 (signalSum regex message state intent)) then
            some (escalationMessage
              (scoreToSeverity (min 1 (signalSum regex message state intent))))
          else none } := by
  unfold AsksHuman at calm
  have unabusive : hits regex message abusiveKeywords = [] := by
    rw [hits, List.filter_eq_nil_iff]
    exact fun rule member hit => civil ⟨rule, member, hit⟩
  have score : min 1 (signalSum regex message state intent) =
      runningScore (min 1 ((hits regex message criticalKeywords).foldl
          (fun score rule => min 1 (score + rule.weight)) 0 +
        min (50 / 100) ((hits regex message angerKeywords).map Rule.weight).sum))
        (countIntentRepeats intent.intent.value state.intent_history) state.unresolved_turns := by
    rw [keywordScore_eq, runningScore_eq]
    rfl
  have rounded := roundTo_hundredths _ (signalSum_hundredths regex message state intent)
  rw [score] at rounded ⊢
  unfold detectEscalation
  simp only [calm, Bool.false_eq_true, if_false, unabusive, List.head?_nil]
  unfold runningScore at rounded ⊢
  split_ifs at rounded ⊢ <;> exact ⟨_, by rw [rounded]⟩

theorem scoreToSeverity_escalates (score : Rat) :
    scoreToSeverity score = .angry ∨ scoreToSeverity score = .critical ↔ 1 / 2 ≤ score := by
  unfold scoreToSeverity scoreCritical scoreAngry scoreFrustrated
  split_ifs <;> simp <;> linarith

/-- Every keyword pattern that matches the first message matches the second. -/
def MatchesMore (regex : Regex) (message : String) (regex' : Regex) (message' : String) : Prop :=
  (AsksHuman regex message → AsksHuman regex' message') ∧
    ∀ rule ∈ criticalKeywords ++ angerKeywords ++ abusiveKeywords,
      regex.search rule.pattern message = true → regex'.search rule.pattern message' = true

variable (regex' : Regex) (message' : String)

theorem matchedWeight_mono (rules : List Rule) (nonneg : ∀ rule ∈ rules, 0 ≤ rule.weight)
    (more : ∀ rule ∈ rules, regex.search rule.pattern message = true →
      regex'.search rule.pattern message' = true) :
    matchedWeight regex message rules ≤ matchedWeight regex' message' rules := by
  unfold matchedWeight hits
  induction rules with
  | nil => exact le_refl _
  | cons rule rest ih =>
    have later := ih (fun other member => nonneg other (List.mem_cons_of_mem _ member))
      fun other member => more other (List.mem_cons_of_mem _ member)
    have weight := nonneg rule (List.mem_cons_self ..)
    have first := more rule (List.mem_cons_self ..)
    by_cases matched : regex.search rule.pattern message = true
    · simpa [matched, first matched] using later
    · by_cases matched' : regex'.search rule.pattern message' = true
      · simp only [matched, matched', Bool.false_eq_true, not_false_eq_true,
          List.filter_cons_of_pos, List.filter_cons_of_neg, List.map_cons, List.sum_cons]
        linarith
      · simpa [matched, matched'] using later

theorem signalSum_mono (state state' : ConversationState) (intent intent' : IntentResult)
    (more : MatchesMore regex message regex' message')
    (turns : state.unresolved_turns ≤ state'.unresolved_turns)
    (repeats : countIntentRepeats intent.intent.value state.intent_history ≤
      countIntentRepeats intent'.intent.value state'.intent_history) :
    signalSum regex message state intent ≤ signalSum regex' message' state' intent' := by
  have critical := matchedWeight_mono regex message regex' message' criticalKeywords
    (fun rule member => (keyword_weights rule (List.mem_append_left _ member)).1)
    fun rule member => more.2 rule (by simp [member])
  have anger := matchedWeight_mono regex message regex' message' angerKeywords
    (fun rule member => (keyword_weights rule (List.mem_append_right _ member)).1)
    fun rule member => more.2 rule (by simp [member])
  have anger_ : min (50 / 100) (matchedWeight regex message angerKeywords) ≤
      min (50 / 100) (matchedWeight regex' message' angerKeywords) := min_le_min_left _ anger
  have repeats_ := repeatScore_mono repeats
  have unresolved := unresolvedScore_mono turns
  unfold signalSum
  linarith

theorem detectEscalation_score :
    (AsksHuman regex message ∨ Abusive regex message) ∧
        (detectEscalation regex message state intent).score = 1 ∨
      ¬ (AsksHuman regex message ∨ Abusive regex message) ∧
        (detectEscalation regex message state intent).score =
          min 1 (signalSum regex message state intent) := by
  by_cases asks : AsksHuman regex message
  · exact .inl ⟨.inl asks, (detectEscalation_human regex message state intent asks).2⟩
  · by_cases abusive : Abusive regex message
    · exact .inl ⟨.inr abusive, (detectEscalation_abusive regex message state intent abusive).2⟩
    · obtain ⟨triggers, scored⟩ := detectEscalation_scored regex message state intent asks abusive
      exact .inr ⟨by simp [asks, abusive], by rw [scored]⟩

/-- The score is a number from 0 to 1 that agrees with the other fields, is 1 at a forced
exit, and grows with each of its signals. -/
theorem escalation_coherent_monotone :
    (∀ (regex : Regex) (message : String) (state : ConversationState) (intent : IntentResult),
      (0 ≤ (detectEscalation regex message state intent).score ∧
          (detectEscalation regex message state intent).score ≤ 1) ∧
        (¬ AsksHuman regex message → ¬ Abusive regex message →
          ((detectEscalation regex message state intent).should_escalate = true ↔
              1 / 2 ≤ (detectEscalation regex message state intent).score) ∧
            (1 / 2 ≤ (detectEscalation regex message state intent).score ↔
              (detectEscalation regex message state intent).severity = .angry ∨
                (detectEscalation regex message state intent).severity = .critical) ∧
            ((detectEscalation regex message state intent).escalation_message.isSome = true ↔
              (detectEscalation regex message state intent).should_escalate = true)) ∧
        (AsksHuman regex message ∨ Abusive regex message →
          (detectEscalation regex message state intent).should_escalate = true ∧
            (detectEscalation regex message state intent).score = 1)) ∧
      ∀ (regex regex' : Regex) (message message' : String) (state state' : ConversationState)
        (intent intent' : IntentResult), MatchesMore regex message regex' message' →
        state.unresolved_turns ≤ state'.unresolved_turns →
        countIntentRepeats intent.intent.value state.intent_history ≤
          countIntentRepeats intent'.intent.value state'.intent_history →
        (detectEscalation regex message state intent).score ≤
          (detectEscalation regex' message' state' intent').score := by
  constructor
  · intro regex message state intent
    refine ⟨?_, fun calm civil => ?_, fun forced => ?_⟩
    · have nonneg := signalSum_nonneg regex message state intent
      rcases detectEscalation_score regex message state intent with ⟨_, score⟩ | ⟨_, score⟩ <;>
        rw [score]
      · exact ⟨zero_le_one, le_refl _⟩
      · exact ⟨le_min zero_le_one nonneg, min_le_left _ _⟩
    · obtain ⟨triggers, scored⟩ := detectEscalation_scored regex message state intent calm civil
      have severity := scoreToSeverity_escalates (min 1 (signalSum regex message state intent))
      have half : scoreEscalate = 1 / 2 := by norm_num [scoreEscalate]
      rw [scored]
      refine ⟨?_, severity.symm, ?_⟩
      · rw [← half]
        exact decide_eq_true_iff
      · by_cases escalates : scoreEscalate ≤ min 1 (signalSum regex message state intent)
        · simp only [escalates, decide_true, if_true, Option.isSome_some]
        · simp only [escalates, decide_false, Bool.false_eq_true, if_false, Option.isSome_none]
    · rcases forced with asks | abusive
      · exact detectEscalation_human regex message state intent asks
      · exact detectEscalation_abusive regex message state intent abusive
  · intro regex regex' message message' state state' intent intent' more turns repeats
    have grown := signalSum_mono regex message regex' message' state state' intent intent' more
      turns repeats
    have forced : AsksHuman regex message ∨ Abusive regex message →
        AsksHuman regex' message' ∨ Abusive regex' message' := by
      rintro (asks | ⟨rule, member, hit⟩)
      · exact .inl (more.1 asks)
      · exact .inr ⟨rule, member, more.2 rule (by simp [member]) hit⟩
    rcases detectEscalation_score regex' message' state' intent' with
      ⟨_, score'⟩ | ⟨unforced', score'⟩ <;> rw [score']
    · rcases detectEscalation_score regex message state intent with ⟨_, score⟩ | ⟨_, score⟩ <;>
        rw [score]
      exact min_le_left _ _
    · rcases detectEscalation_score regex message state intent with ⟨forced_, _⟩ | ⟨_, score⟩
      · exact absurd (forced forced_) unforced'
      · rw [score]
        exact min_le_min_left _ grown

/-- No keyword and no request for a human is in the message. -/
def Unmatched : Prop :=
  ¬ AsksHuman regex message ∧ ∀ rule ∈ criticalKeywords ++ angerKeywords ++ abusiveKeywords,
    ¬ regex.search rule.pattern message = true

/-- How many of the last six turns had the intent. -/
def recentTurns (turns : List ConversationTurn) (intent : Intent) : Nat :=
  ((turns.map ConversationTurn.intent).rtake 6).count intent.value

theorem matchedWeight_unmatched (rules : List Rule)
    (unmatched : ∀ rule ∈ rules, ¬ regex.search rule.pattern message = true) :
    matchedWeight regex message rules = 0 := by
  have none_ : hits regex message rules = [] := by
    rw [hits, List.filter_eq_nil_iff]
    exact unmatched
  rw [matchedWeight, none_]
  rfl

variable (turns : List ConversationTurn)

theorem countIntentRepeats_after (intent : Intent) :
    countIntentRepeats intent.value (ConversationState.after turns).intent_history =
      recentTurns turns intent := by
  have history := (ConversationState.recounts_after turns).intent_history
  rw [history]
  unfold countIntentRepeats recentTurns intentRepeatThreshold List.rtake maxHistory
  simp only [List.drop_drop, List.length_drop, List.length_map]
  congr 2
  omega

theorem unresolved_after (answered : ∀ turn ∈ turns, turn.agent_action = "respond") :
    (ConversationState.after turns).unresolved_turns = 0 := by
  have counted := (ConversationState.recounts_after turns).unresolved
  rw [counted]
  have none_ : turns.rtakeWhile ConversationTurn.unresolved = [] := by
    rw [List.rtakeWhile_eq_nil_iff]
    intro some_
    have last := answered _ (List.getLast_mem some_)
    simp [ConversationTurn.unresolved, last]
  rw [none_]
  rfl

theorem repeatScore_eq_zero_iff (repeats : Nat) : repeatScore repeats = 0 ↔ repeats < 3 := by
  rw [repeatScore_eq]
  constructor
  · intro zero
    by_contra many
    have counted : (1 : Rat) ≤ ((repeats - 2 : Nat) : Rat) := by
      have one : 1 ≤ repeats - 2 := by omega
      exact_mod_cast one
    have positive : 0 < min (30 / 100) (10 / 100 * ((repeats - 2 : Nat) : Rat)) :=
      lt_min (by norm_num) (by linarith)
    exact absurd zero positive.ne'
  · intro few
    have none_ : repeats - 2 = 0 := by omega
    rw [none_]
    norm_num

/-- Nothing is unresolved, so the score is the part of the repeated intent, which does not
ask whether the turns were answered. -/
theorem answered_score_zero_iff (turns : List ConversationTurn)
    (answered : ∀ turn ∈ turns, turn.agent_action = "respond") (intent : IntentResult)
    (unmatched : Unmatched regex message) :
    (detectEscalation regex message (ConversationState.after turns) intent).score = 0 ↔
      recentTurns turns intent.intent < 3 := by
  have civil : ¬ Abusive regex message := by
    rintro ⟨rule, member, hit⟩
    exact unmatched.2 rule (List.mem_append_right _ member) hit
  have critical := matchedWeight_unmatched regex message criticalKeywords fun rule member =>
    unmatched.2 rule (by simp [member])
  have anger := matchedWeight_unmatched regex message angerKeywords fun rule member =>
    unmatched.2 rule (by simp [member])
  have unresolved : unresolvedScore 0 = 0 := by simp [unresolvedScore, unresolvedTurnsThreshold]
  have sum : signalSum regex message (ConversationState.after turns) intent =
      repeatScore (recentTurns turns intent.intent) := by
    unfold signalSum
    rw [critical, anger, countIntentRepeats_after, unresolved_after turns answered, unresolved]
    norm_num
  have small : repeatScore (recentTurns turns intent.intent) ≤ 1 := by
    rw [repeatScore_eq]
    exact le_trans (min_le_left _ _) (by norm_num)
  obtain ⟨triggers, scored⟩ := detectEscalation_scored regex message
    (ConversationState.after turns) intent unmatched.1 civil
  rw [scored, sum, min_eq_right small]
  exact repeatScore_eq_zero_iff _

/-- Patterns that match no text. -/
def noMatches : Regex where
  search _ _ := false
  finditer _ _ _ := []

def answeredTurn : ConversationTurn where
  intent := Intent.billing.value
  entities := []
  severity := Severity.calm.value
  agent_action := "respond"

def billingIntent : IntentResult := { intent := .billing, confidence := 92 / 100 }

theorem second_answer_not_penalised :
    (detectEscalation noMatches "Thank you." (ConversationState.after [answeredTurn, answeredTurn])
        billingIntent).score = 0 ↔
      recentTurns [answeredTurn, answeredTurn] billingIntent.intent < 3 :=
  answered_score_zero_iff noMatches "Thank you." [answeredTurn, answeredTurn]
    (by simp [answeredTurn]) billingIntent ⟨by simp [AsksHuman, noMatches], by simp [noMatches]⟩

/-- After three answers the next question about the bill is scored. -/
theorem third_answer_penalised :
    ¬ ∀ turns : List ConversationTurn, (∀ turn ∈ turns, turn.agent_action = "respond") →
      ∀ (regex : Regex) (message : String) (intent : IntentResult), Unmatched regex message →
        (detectEscalation regex message (ConversationState.after turns) intent).score = 0 := by
  intro unpenalised
  have zero := unpenalised (List.replicate 3 answeredTurn)
    (fun turn member => by rw [List.eq_of_mem_replicate member]; rfl) noMatches
    "And the next invoice?" billingIntent ⟨by simp [AsksHuman, noMatches], by simp [noMatches]⟩
  exact absurd zero (by decide +kernel)

end HelpForge.Chatbot
